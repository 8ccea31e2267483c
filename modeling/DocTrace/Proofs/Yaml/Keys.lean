import DocTrace.Proofs.Result
import DocTrace.Proofs.Value.Mapping
import DocTrace.Yaml.Document

/-! The names in the mappings of a document. The shape of a mapping is made when all its keys have
been looked at, and two keys that are the same text are written once. What a node stands for as a
key does not change after it has been looked at, so this holds of all shapes in the end, and the
values are put together from the shapes. -/

namespace DocTrace

/-! ### Values -/

namespace Value

def isScalar : Value → Bool
  | .null | .bool _ | .int _ | .float _ | .str _ | .date _ | .moment _ | .bytes _ => true
  | _ => false

/-- Values all of whose mappings have every name once. -/
inductive NamesOnce : Value → Prop
  | scalar {v : Value} (h : v.isScalar = true) : NamesOnce v
  | list {items : List Value} (h : ∀ v ∈ items, NamesOnce v) : NamesOnce (.list items)
  | pair {x y : Value} (hx : NamesOnce x) (hy : NamesOnce y) : NamesOnce (.pair x y)
  | map {entries : Mapping} (hnames : entries.names.Nodup) (h : ∀ e ∈ entries, NamesOnce e.2) :
    NamesOnce (.map entries)
  | set (items : List Value) : NamesOnce (.set items)
  | knot (label : Nat) {content : Value} (h : NamesOnce content) : NamesOnce (.knot label content)
  | again (label : Nat) (isMap : Bool) : NamesOnce (.again label isMap)

theorem tieItems_eq_map (label : Nat) (whole : Value) (items : List Value) :
    tieItems label whole items = items.map (tie label whole) := by
  induction items with
  | nil => rfl
  | cons v vs ih => rw [tieItems, ih, List.map_cons]

theorem tieEntries_eq_map (label : Nat) (whole : Value) (entries : Mapping) :
    tieEntries label whole entries = entries.map fun e => (e.1, tie label whole e.2) := by
  induction entries with
  | nil => rfl
  | cons e es ih => rw [tieEntries, ih, List.map_cons]

theorem tie_of_isScalar {v : Value} (h : v.isScalar = true) (label : Nat) (whole : Value) :
    tie label whole v = v := by
  cases v <;> first | rfl | simp [isScalar] at h

theorem NamesOnce.tie {v whole : Value} (h : v.NamesOnce) (hwhole : whole.NamesOnce)
    (label : Nat) : (Value.tie label whole v).NamesOnce := by
  induction h with
  | scalar h =>
    rw [tie_of_isScalar h]
    exact .scalar h
  | list _ ih =>
    rw [Value.tie, tieItems_eq_map]
    refine .list fun v hv => ?_
    obtain ⟨item, hitem, rfl⟩ := List.mem_map.1 hv
    exact ih item hitem
  | pair _ _ ihx ihy => exact .pair ihx ihy
  | @map entries hnames _ ih =>
    rw [Value.tie, tieEntries_eq_map]
    refine .map ?_ fun e he => ?_
    · simpa [Mapping.names, List.filterMap_map, Function.comp_def] using hnames
    · obtain ⟨entry, hentry, rfl⟩ := List.mem_map.1 he
      exact ih entry hentry
  | set items => exact .set items
  | knot inner h ih =>
    refine .knot inner ?_
    split
    · exact h
    · exact ih
  | again place isMap =>
    rw [Value.tie]
    split
    · exact hwhole
    · exact .again place isMap

theorem NamesOnce.unfold {v : Value} (h : v.NamesOnce) : v.unfold.NamesOnce := by
  cases v with
  | knot label content =>
    have hcontent : content.NamesOnce := by
      cases h with
      | scalar h => simp [isScalar] at h
      | knot _ h => exact h
    exact hcontent.tie h label
  | _ => exact h

theorem NamesOnce.of_asMap? {v : Value} {m : Mapping} (h : v.NamesOnce) (hmap : v.asMap? = some m) :
    m.names.Nodup ∧ ∀ e ∈ m, e.2.NamesOnce := by
  have hunfold := h.unfold
  unfold asMap? at hmap
  split at hmap
  · next entries heq =>
    obtain rfl := Option.some.inj hmap
    rw [heq] at hunfold
    cases hunfold with
    | scalar h => simp [isScalar] at h
    | map hnames h => exact ⟨hnames, h⟩
  · contradiction

theorem NamesOnce.of_asList? {v : Value} {items : List Value} (h : v.NamesOnce)
    (hlist : v.asList? = some items) : ∀ item ∈ items, item.NamesOnce := by
  have hunfold := h.unfold
  unfold asList? at hlist
  split at hlist
  · next found heq =>
    obtain rfl := Option.some.inj hlist
    rw [heq] at hunfold
    cases hunfold with
    | scalar h => simp [isScalar] at h
    | list h => exact h
  · contradiction

end Value

namespace Yaml

open Value

namespace Scalar

/-- Whether only scalars come out of a reader. -/
def GivesScalar (x : Except Fault Value) : Prop := ∀ v, x = .ok v → v.isScalar = true

theorem givesScalar_ok {v : Value} (h : v.isScalar = true) : GivesScalar (.ok v) :=
  fun _ hv => Except.ok.inj hv ▸ h

theorem givesScalar_error (fault : Fault) : GivesScalar (.error fault) := fun _ h => nomatch h

theorem GivesScalar.bind {x : Except Fault α} {f : α → Except Fault Value}
    (h : ∀ a, GivesScalar (f a)) : GivesScalar (x >>= f) := by
  intro v hv
  obtain ⟨a, -, ha⟩ := exists_of_bind_ok hv
  exact h a v ha

theorem givesScalar_integer (text : List Char) : GivesScalar (integer text) := by
  refine .bind fun ⟨sign, digits⟩ => ?_
  have hlast (magnitude : Int) : GivesScalar (pure (.int (sign * magnitude))) := givesScalar_ok rfl
  dsimp only
  split
  · exact .bind hlast
  · exact .bind hlast
  · exact .bind hlast
  · exact .bind hlast
  · exact .bind hlast
  · split
    · exact .bind fun _ => .bind hlast
    · exact .bind hlast

theorem givesScalar_floating (text : List Char) : GivesScalar (floating text) := by
  refine .bind fun ⟨sign, digits⟩ => ?_
  have hlast (magnitude : Binary64) :
      GivesScalar (pure (.float (if sign < 0 then magnitude.neg else magnitude))) :=
    givesScalar_ok rfl
  dsimp only
  split
  · exact .bind hlast
  · split
    · exact .bind hlast
    · split
      · exact .bind fun _ => .bind hlast
      · exact .bind hlast

theorem givesScalar_map {x : Except ε α} {f : α → Value} (hf : ∀ a, (f a).isScalar = true)
    (fault : ε → Fault) : GivesScalar ((x.map f).mapError fault) := by
  cases x with
  | error e => exact givesScalar_error _
  | ok a => exact givesScalar_ok (hf a)

theorem givesScalar_timestamp (text : List Char) : GivesScalar (timestamp text) := by
  unfold timestamp
  split
  · exact givesScalar_error _
  · dsimp only
    split
    · exact givesScalar_map (fun _ => rfl) _
    · exact givesScalar_map (fun _ => rfl) _

theorem givesScalar_value (tag : Tag) (text : List Char) : GivesScalar (value tag text) := by
  unfold value
  split
  · exact givesScalar_ok rfl
  · unfold truthValue
    split
    · exact givesScalar_ok rfl
    · exact givesScalar_error _
  · exact givesScalar_integer text
  · exact givesScalar_floating text
  · exact givesScalar_timestamp text
  · unfold binary
    split
    · split
      · exact givesScalar_ok rfl
      · exact givesScalar_error _
    · exact givesScalar_error _
  · exact givesScalar_ok rfl
  · exact givesScalar_error _

end Scalar

namespace Outline

variable {o p q : Outline} {n : Nat} {shape : Shape}

/-- Whether the key that a node stands for will not change any more. -/
def IsSettled (o : Outline) (n : Nat) : Prop := o.shapes.size ≤ n ∨ (o.shape? n).isSome

/-- Whether one outline comes after another. -/
def Extends (o p : Outline) : Prop :=
  ∀ n, o.IsSettled n → p.IsSettled n ∧ p.keyValue n = o.keyValue n

/-- Entries of a mapping: all keys are settled, and no two of them are one name. -/
def Lists (o : Outline) (entries : List NodePair) : Prop :=
  (∀ e ∈ entries, o.IsSettled e.1) ∧
    (entries.filterMap fun e => (o.keyValue e.1).asString?).Nodup

/-- Whether a node may still become any collection. -/
def IsOpen (o : Outline) (n : Nat) : Prop := o.IsSettled n ∧ o.keyValue n = .null

structure Sound (o : Outline) : Prop where
  scalars : ∀ n v, o.shape? n = some (.scalar v) → v.isScalar = true
  maps : ∀ n entries, o.shape? n = some (.map entries) → o.Lists entries
  waiting : ∀ n ∈ o.waiting, o.IsOpen n

theorem Extends.refl (o : Outline) : Extends o o := fun _ h => ⟨h, rfl⟩

theorem Extends.trans (h : Extends o p) (h' : Extends p q) : Extends o q := by
  intro n hn
  obtain ⟨hp, hkey⟩ := h n hn
  obtain ⟨hq, hkey'⟩ := h' n hp
  exact ⟨hq, hkey'.trans hkey⟩

theorem Lists.of_extends {entries : List NodePair} (h : o.Lists entries) (hext : Extends o p) :
    p.Lists entries := by
  refine ⟨fun e he => (hext e.1 (h.1 e he)).1, ?_⟩
  have hsame : (entries.filterMap fun e => (p.keyValue e.1).asString?) =
      entries.filterMap fun e => (o.keyValue e.1).asString? :=
    List.filterMap_congr fun e he => by rw [(hext e.1 (h.1 e he)).2]
  rw [hsame]
  exact h.2

theorem IsOpen.of_extends (h : o.IsOpen n) (hext : Extends o p) : p.IsOpen n :=
  ⟨(hext n h.1).1, (hext n h.1).2.trans h.2⟩

/-! ### Writing a shape -/

theorem shape?_put (o : Outline) (n : Nat) (shape : Shape) (m : Nat) :
    (o.put n shape).shape? m = if m = n ∧ n < o.shapes.size then some shape else o.shape? m := by
  simp only [put, shape?, Array.getElem?_setIfInBounds]
  by_cases hm : n = m
  · subst hm
    by_cases hsize : n < o.shapes.size <;> simp [hsize]
  · simp [hm, Ne.symm hm]

theorem isSettled_put (o : Outline) (n : Nat) (shape : Shape) : (o.put n shape).IsSettled n := by
  rw [IsSettled, shape?_put]
  by_cases hsize : n < o.shapes.size
  · exact .inr (by simp [hsize])
  · exact .inl (by simpa [put] using hsize)

/-- The key that a node of a shape stands for. -/
def keyOf : Shape → Value
  | .scalar v => v
  | _ => .null

theorem keyValue_eq (o : Outline) (n : Nat) :
    o.keyValue n = ((o.shape? n).map keyOf).getD .null := by
  unfold keyValue keyOf
  cases o.shape? n with
  | none => rfl
  | some shape => cases shape <;> rfl

theorem extends_put (h : (o.shape? n).isSome → o.keyValue n = keyOf shape) :
    Extends o (o.put n shape) := by
  intro m hm
  rw [IsSettled, keyValue_eq, keyValue_eq, shape?_put]
  split
  · next heq =>
    obtain ⟨rfl, hsize⟩ := heq
    have hsome : (o.shape? m).isSome := hm.resolve_left (Nat.not_le.2 hsize)
    refine ⟨.inr rfl, ?_⟩
    rw [← keyValue_eq, h hsome]
    rfl
  · refine ⟨hm.imp (fun hsize => ?_) id, rfl⟩
    simpa [put] using hsize

theorem Sound.put (hsound : o.Sound) (hext : Extends o (o.put n shape))
    (hscalar : ∀ v, shape = .scalar v → v.isScalar = true)
    (hmap : ∀ entries, shape = .map entries → o.Lists entries) : (o.put n shape).Sound where
  scalars m v hm := by
    rw [shape?_put] at hm
    split at hm
    · exact hscalar v (Option.some.inj hm)
    · exact hsound.scalars m v hm
  maps m entries hm := by
    rw [shape?_put] at hm
    split at hm
    · exact (hmap entries (Option.some.inj hm)).of_extends hext
    · exact (hsound.maps m entries hm).of_extends hext
  waiting m hm := (hsound.waiting m hm).of_extends hext

theorem givesScalar_scalarOf (g : NodeGraph) (n : Nat) :
    Scalar.GivesScalar (Shape.scalarOf g n) := by
  unfold Shape.scalarOf
  split
  · exact Scalar.givesScalar_error _
  · exact Scalar.givesScalar_error _
  · exact Scalar.givesScalar_error _
  · refine .bind fun text => ?_
    split
    · exact Scalar.givesScalar_error _
    · exact Scalar.givesScalar_value _ _

/-! ### Looking at nodes -/

theorem Sound.visit (hsound : o.Sound) (h : o.visit n = .ok p) :
    Extends o p ∧ p.Sound ∧ p.IsSettled n := by
  unfold Outline.visit at h
  split at h
  · next hseen =>
    obtain rfl := Except.ok.inj h
    exact ⟨.refl o, hsound, .inr hseen⟩
  · next hnew =>
    have hext (shape : Shape) : Extends o (o.put n shape) :=
      extends_put fun hseen => absurd hseen hnew
    split at h
    · obtain rfl := Except.ok.inj h
      have hput : (o.put n .waiting).Sound := hsound.put (hext _) (by simp) (by simp)
      have hsettled := isSettled_put o n .waiting
      refine ⟨hext .waiting, ⟨hput.scalars, hput.maps, fun m hm => ?_⟩, hsettled⟩
      rcases List.mem_cons.1 hm with rfl | hm
      · refine ⟨hsettled, ?_⟩
        change (o.put m .waiting).keyValue m = .null
        rw [keyValue_eq, shape?_put]
        split
        · rfl
        · simp [Option.not_isSome_iff_eq_none.1 hnew]
      · exact hput.waiting m hm
    · cases hscalar : Shape.scalarOf o.graph n with
      | error fault => simp [hscalar, Except.map] at h
      | ok v =>
        rw [hscalar] at h
        obtain rfl := Except.ok.inj h
        have hv : v.isScalar = true := givesScalar_scalarOf o.graph n v hscalar
        exact ⟨hext _, hsound.put (hext _) (by simpa using hv) (by simp), isSettled_put o n _⟩

theorem Sound.foldlM_visit {items : List Nat} (hsound : o.Sound)
    (h : items.foldlM Outline.visit o = .ok p) : Extends o p ∧ p.Sound := by
  induction items generalizing o with
  | nil =>
    obtain rfl := Except.ok.inj h
    exact ⟨.refl o, hsound⟩
  | cons item rest ih =>
    rw [List.foldlM_cons] at h
    obtain ⟨q, hq, h⟩ := exists_of_bind_ok h
    obtain ⟨hfirst, hsoundq, -⟩ := hsound.visit hq
    obtain ⟨hrest, hsoundp⟩ := ih hsoundq h
    exact ⟨hfirst.trans hrest, hsoundp⟩

theorem Sound.visitEntry {entry : NodePair} (hsound : o.Sound) (h : o.visitEntry entry = .ok p) :
    Extends o p ∧ p.Sound ∧ p.IsSettled entry.1 := by
  unfold Outline.visitEntry at h
  split at h
  · contradiction
  · obtain ⟨q, hq, h⟩ := exists_of_bind_ok h
    obtain ⟨hkey, hsoundq, hsettled⟩ := hsound.visit hq
    obtain ⟨hvalue, hsoundp, -⟩ := hsoundq.visit h
    exact ⟨hkey.trans hvalue, hsoundp, (hvalue _ hsettled).1⟩

theorem Sound.foldlM_visitEntry {entries : List NodePair} (hsound : o.Sound)
    (h : entries.foldlM Outline.visitEntry o = .ok p) :
    Extends o p ∧ p.Sound ∧ ∀ e ∈ entries, p.IsSettled e.1 := by
  induction entries generalizing o with
  | nil =>
    obtain rfl := Except.ok.inj h
    exact ⟨.refl o, hsound, by simp⟩
  | cons entry rest ih =>
    rw [List.foldlM_cons] at h
    obtain ⟨q, hq, h⟩ := exists_of_bind_ok h
    obtain ⟨hfirst, hsoundq, hsettled⟩ := hsound.visitEntry hq
    obtain ⟨hrest, hsoundp, hall⟩ := ih hsoundq h
    exact ⟨hfirst.trans hrest, hsoundp, List.forall_mem_cons.2 ⟨(hrest _ hsettled).1, hall⟩⟩

/-! ### The entries of a mapping -/

theorem sameKey_of_name {a b : Nat} {s : String} (ha : (o.keyValue a).asString? = some s)
    (hb : (o.keyValue b).asString? = some s) : o.sameKey a b = true := by
  have hshape {n : Nat} (hn : (o.keyValue n).asString? = some s) :
      o.shape? n = some (.scalar (.str s)) := by
    unfold keyValue at hn
    split at hn
    · next v hv =>
      rw [hv, asString?_eq_some_iff.1 hn]
    · simp [asString?] at hn
  rw [sameKey, hshape ha, hshape hb]
  simp [eqValue, eqScalar, number?]

/-- Entries with settled keys, no two of which are the same. -/
def Distinct (o : Outline) (entries : List NodePair) : Prop :=
  (∀ e ∈ entries, o.IsSettled e.1) ∧ entries.Pairwise fun a b => o.sameKey a.1 b.1 = false

theorem Distinct.lists {entries : List NodePair} (h : o.Distinct entries) : o.Lists entries := by
  refine ⟨h.1, List.pairwise_filterMap.2 (h.2.imp fun {a b} hab s ha t hb => ?_)⟩
  rintro rfl
  rw [sameKey_of_name ha hb] at hab
  contradiction

theorem Distinct.putEntry {entries : List NodePair} (h : o.Distinct entries) {entry : NodePair}
    (hsettled : o.IsSettled entry.1) : o.Distinct (o.putEntry entries entry) := by
  obtain ⟨hkeys, hpairs⟩ := h
  have hfirst (e : NodePair) :
      (if o.sameKey e.1 entry.1 then (e.1, entry.2) else e).1 = e.1 := by
    split <;> rfl
  unfold Outline.putEntry
  split
  · refine ⟨fun e he => ?_, List.pairwise_map.2 (hpairs.imp fun {a b} hab => ?_)⟩
    · obtain ⟨kept, hkept, rfl⟩ := List.mem_map.1 he
      rw [hfirst]
      exact hkeys kept hkept
    · rw [hfirst, hfirst]
      exact hab
  · next hnew =>
    refine ⟨fun e he => ?_, List.pairwise_append.2 ⟨hpairs, List.pairwise_singleton _ _, ?_⟩⟩
    · rcases List.mem_append.1 he with he | he
      · exact hkeys e he
      · exact List.mem_singleton.1 he ▸ hsettled
    · intro a ha b hb
      obtain rfl := List.mem_singleton.1 hb
      simp only [List.any_eq_true, not_exists, not_and, Bool.not_eq_true] at hnew
      exact hnew a ha

theorem Distinct.foldl_putEntry {entries more : List NodePair} (h : o.Distinct entries)
    (hmore : ∀ e ∈ more, o.IsSettled e.1) : o.Distinct (more.foldl o.putEntry entries) := by
  induction more generalizing entries with
  | nil => exact h
  | cons entry rest ih =>
    obtain ⟨hfirst, hrest⟩ := List.forall_mem_cons.1 hmore
    exact ih (h.putEntry hfirst) hrest

theorem Sound.visitMapping {entries : List NodePair} (hsound : o.Sound)
    (h : o.visitMapping n = .ok (entries, p)) : Extends o p ∧ p.Sound ∧ p.Lists entries := by
  unfold Outline.visitMapping at h
  split at h
  · contradiction
  · obtain ⟨graph, -, h⟩ := exists_of_bind_ok h
    obtain ⟨q, hq, h⟩ := exists_of_bind_ok h
    -- The merge keys change the graph only, and the invariant is about the shapes.
    have hmerged : Sound { o with graph } := ⟨hsound.scalars, hsound.maps, hsound.waiting⟩
    obtain ⟨hext, hsoundq, hkeys⟩ := hmerged.foldlM_visitEntry hq
    obtain ⟨rfl, rfl⟩ := Prod.mk.inj (Except.ok.inj h)
    have hnil : q.Distinct [] := ⟨by simp, .nil⟩
    exact ⟨hext, hsoundq, (hnil.foldl_putEntry hkeys).lists⟩

theorem Sound.visitPairs {items : List Nat} {entries : List NodePair} (hsound : o.Sound)
    (h : o.visitPairs items = .ok (entries, p)) : Extends o p ∧ p.Sound := by
  induction items generalizing o entries with
  | nil =>
    obtain ⟨-, rfl⟩ := Prod.mk.inj (Except.ok.inj h)
    exact ⟨.refl o, hsound⟩
  | cons item rest ih =>
    unfold Outline.visitPairs at h
    split at h
    · contradiction
    · next entry _ =>
      obtain ⟨q, hq, h⟩ := exists_of_bind_ok h
      obtain ⟨r, hr, h⟩ := exists_of_bind_ok h
      obtain ⟨⟨more, u⟩, hmore, h⟩ := exists_of_bind_ok h
      obtain ⟨-, rfl⟩ := Prod.mk.inj (Except.ok.inj h)
      obtain ⟨hkey, hsoundq, -⟩ := hsound.visit hq
      obtain ⟨hvalue, hsoundr, -⟩ := hsoundq.visit hr
      obtain ⟨hrest, hsoundu⟩ := ih hsoundr hmore
      exact ⟨(hkey.trans hvalue).trans hrest, hsoundu⟩

/-! ### Levels -/

/-- A collection is written where a node is open. -/
theorem Sound.put_open (hsound : o.Sound) (hopen : o.IsOpen n) (shape : Shape)
    (hkey : keyOf shape = .null) (hmap : ∀ entries, shape = .map entries → o.Lists entries) :
    Extends o (o.put n shape) ∧ (o.put n shape).Sound := by
  have hext : Extends o (o.put n shape) := extends_put fun _ => hopen.2.trans hkey.symm
  refine ⟨hext, hsound.put hext ?_ hmap⟩
  rintro v rfl
  rw [show v = .null from hkey]
  rfl

theorem Sound.fill (hsound : o.Sound) (hopen : o.IsOpen n) (h : o.fill n = .ok p) :
    Extends o p ∧ p.Sound := by
  unfold Outline.fill at h
  split at h
  · obtain ⟨⟨entries, q⟩, hq, rfl⟩ := exists_of_map_ok h
    obtain ⟨hext, hsoundq, hlists⟩ := hsound.visitMapping hq
    obtain ⟨hput, hsoundp⟩ := hsoundq.put_open (hopen.of_extends hext) (.map entries) rfl
      fun _ heq => Shape.map.inj heq ▸ hlists
    exact ⟨hext.trans hput, hsoundp⟩
  · obtain ⟨⟨entries, q⟩, hq, rfl⟩ := exists_of_map_ok h
    obtain ⟨hext, hsoundq, -⟩ := hsound.visitMapping hq
    obtain ⟨hput, hsoundp⟩ := hsoundq.put_open (hopen.of_extends hext)
      (.set (entries.map (·.1))) rfl (by simp)
    exact ⟨hext.trans hput, hsoundp⟩
  · contradiction
  · obtain ⟨q, hq, rfl⟩ := exists_of_map_ok h
    obtain ⟨hext, hsoundq⟩ := hsound.foldlM_visit hq
    obtain ⟨hput, hsoundp⟩ := hsoundq.put_open (hopen.of_extends hext) (.list _) rfl (by simp)
    exact ⟨hext.trans hput, hsoundp⟩
  · obtain ⟨⟨entries, q⟩, hq, rfl⟩ := exists_of_map_ok h
    obtain ⟨hext, hsoundq⟩ := hsound.visitPairs hq
    obtain ⟨hput, hsoundp⟩ :=
      hsoundq.put_open (hopen.of_extends hext) (.pairs entries) rfl (by simp)
    exact ⟨hext.trans hput, hsoundp⟩

theorem Sound.foldlM_fill {pending : List Nat} (hsound : o.Sound)
    (hopen : ∀ n ∈ pending, o.IsOpen n) (h : pending.foldlM Outline.fill o = .ok p) :
    Extends o p ∧ p.Sound := by
  induction pending generalizing o with
  | nil =>
    obtain rfl := Except.ok.inj h
    exact ⟨.refl o, hsound⟩
  | cons n rest ih =>
    obtain ⟨hfirst, hothers⟩ := List.forall_mem_cons.1 hopen
    rw [List.foldlM_cons] at h
    obtain ⟨q, hq, h⟩ := exists_of_bind_ok h
    obtain ⟨hext, hsoundq⟩ := hsound.fill hfirst hq
    obtain ⟨hrest, hsoundp⟩ := ih hsoundq (fun m hm => (hothers m hm).of_extends hext) h
    exact ⟨hext.trans hrest, hsoundp⟩

theorem Sound.fillLevels {fuel : Nat} (hsound : o.Sound) (h : fillLevels fuel o = .ok p) :
    p.Sound := by
  induction fuel generalizing o with
  | zero => exact Except.ok.inj h ▸ hsound
  | succ fuel ih =>
    unfold Outline.fillLevels at h
    split at h
    · exact Except.ok.inj h ▸ hsound
    · obtain ⟨q, hq, h⟩ := exists_of_bind_ok h
      have hstart : Sound { o with waiting := [] } := ⟨hsound.scalars, hsound.maps, by simp⟩
      refine ih (hstart.foldlM_fill (fun n hn => ?_) hq).2 h
      exact hsound.waiting n (List.mem_reverse.1 hn)

theorem sound_start (g : NodeGraph) : (start g).Sound := by
  have hnone (n : Nat) : (start g).shape? n = none := by
    simp only [start, shape?, Array.getElem?_replicate]
    split <;> rfl
  exact ⟨fun n v h => by simp [hnone] at h, fun n entries h => by simp [hnone] at h,
    by simp [start]⟩

theorem sound_ofNode {g : NodeGraph} {root : Nat} (h : ofNode g root = .ok o) : o.Sound := by
  obtain ⟨q, hq, h⟩ := exists_of_bind_ok h
  exact ((sound_start g).visit hq).2.1.fillLevels h

/-! ### Values -/

/-- Whether all values that have been made have every name once. -/
def MadeOnce (made : Parts) : Prop :=
  ∀ (n : Nat) (part : Part), (made[n]?).join = some part → part.value.NamesOnce

variable {made : Parts}

theorem MadeOnce.set (h : MadeOnce made) {part : Part} (hpart : part.value.NamesOnce) (n : Nat) :
    MadeOnce (made.setIfInBounds n (some part)) := by
  intro m other hm
  rw [Array.getElem?_setIfInBounds] at hm
  split at hm
  · split at hm
    · obtain rfl := Option.some.inj hm
      exact hpart
    · contradiction
  · exact h m other hm

theorem namesOnce_valuePairs (parts : List Part) (h : ∀ part ∈ parts, part.value.NamesOnce) :
    ∀ p ∈ valuePairs parts, (Value.pair p.1 p.2).NamesOnce := by
  induction parts using valuePairs.induct with
  | case1 first second rest ih =>
    obtain ⟨hfirst, hsecond, hrest⟩ := List.forall_mem_cons.1 h |>.imp_right List.forall_mem_cons.1
    rw [valuePairs]
    exact List.forall_mem_cons.2 ⟨.pair hfirst hsecond, ih hrest⟩
  | case2 parts hshort =>
    rw [valuePairs.eq_2 parts hshort]
    simp

/-- Parts that are missing only shorten the mapping. -/
theorem names_zipWith_sublist (o : Outline) (entries : List NodePair) (parts : List Part) :
    (Mapping.names (List.zipWith (fun e p => (o.keyValue e.1, p.value)) entries parts)).Sublist
      (entries.filterMap fun e => (o.keyValue e.1).asString?) := by
  induction entries generalizing parts with
  | nil => simp [Mapping.names]
  | cons e rest ih =>
    cases parts with
    | nil => simp [Mapping.names]
    | cons part more =>
      rw [List.zipWith_cons_cons, Mapping.names, List.filterMap_cons, List.filterMap_cons]
      cases (o.keyValue e.1).asString? with
      | none => exact ih more
      | some s => exact (ih more).cons_cons s

theorem namesOnce_assemble (hsound : o.Sound)
    (hshape : shape = .waiting ∨ o.shape? n = some shape) {parts : List Part}
    (hparts : ∀ part ∈ parts, part.value.NamesOnce) : (o.assemble shape parts).NamesOnce := by
  unfold assemble
  split
  · exact .scalar (hsound.scalars n _ (hshape.resolve_left (by simp)))
  · exact .scalar rfl
  · refine .list fun v hv => ?_
    obtain ⟨part, hpart, rfl⟩ := List.mem_map.1 hv
    exact hparts part hpart
  · next entries =>
    refine .map ?_ fun e he => ?_
    · have hlists := hsound.maps n entries (hshape.resolve_left (by simp))
      exact hlists.2.sublist (names_zipWith_sublist o entries parts)
    · obtain ⟨i, hi⟩ := List.getElem?_of_mem he
      obtain ⟨entry, part, -, hpart, rfl⟩ := List.getElem?_zipWith_eq_some.1 hi
      exact hparts part (List.mem_of_getElem? hpart)
  · exact .set _
  · refine .list fun v hv => ?_
    obtain ⟨p, hp, rfl⟩ := List.mem_map.1 hv
    exact namesOnce_valuePairs parts hparts p hp

theorem namesOnce_partAt (hsound : o.Sound) (isKnot : Array Bool) (fuel : Nat)
    (opened : List Nat) (n : Nat) (hmade : MadeOnce made) :
    (o.partAt isKnot fuel opened n made).1.value.NamesOnce ∧
      MadeOnce (o.partAt isKnot fuel opened n made).2 := by
  induction fuel generalizing opened n made with
  | zero => exact ⟨.scalar rfl, hmade⟩
  | succ fuel ih =>
    unfold partAt
    dsimp only
    split
    · exact ⟨.again _ _, hmade⟩
    · split
      · next part hpart =>
        exact ⟨hmade n part (Option.filter_eq_some_iff.1 hpart).1, hmade⟩
      · set inside := if isKnot.getD n false then n :: opened else opened
        obtain ⟨hparts, hlater⟩ := List.foldlRecOn ((o.shape? n).getD .waiting).parts
          (fun (r : List Part × Parts) child =>
            ((o.partAt isKnot fuel inside child r.2).1 :: r.1,
              (o.partAt isKnot fuel inside child r.2).2)) (b := ([], made))
          (motive := fun r => (∀ part ∈ r.1, part.value.NamesOnce) ∧ MadeOnce r.2)
          ⟨by simp, hmade⟩ fun r hr child _ => by
            obtain ⟨hpart, hmade⟩ := ih inside child hr.2
            exact ⟨List.forall_mem_cons.2 ⟨hpart, hr.1⟩, hmade⟩
        have hshape : (o.shape? n).getD .waiting = .waiting ∨
            o.shape? n = some ((o.shape? n).getD .waiting) := by
          cases o.shape? n with
          | none => exact .inl rfl
          | some shape => exact .inr rfl
        have hcontent := namesOnce_assemble hsound hshape fun part hpart =>
          hparts part (List.mem_reverse.1 hpart)
        split
        · exact ⟨.knot n hcontent, hlater.set (.knot n hcontent) n⟩
        · exact ⟨hcontent, hlater.set hcontent n⟩

theorem namesOnce_valueOf (hsound : o.Sound) (n : Nat) : (o.valueOf n).NamesOnce := by
  refine (namesOnce_partAt hsound _ _ _ _ fun m part hm => ?_).1
  rw [Array.getElem?_replicate] at hm
  split at hm <;> contradiction

end Outline

/-- In all mappings of a document that can be loaded, every name is there once. -/
theorem namesOnce_load {text : String} {v : Value} (h : load text = .ok v) : v.NamesOnce := by
  obtain ⟨node, -, h⟩ := exists_of_bind_ok h
  split at h
  · obtain rfl := Except.ok.inj h
    exact .scalar rfl
  · obtain ⟨o, ho, h⟩ := exists_of_bind_ok h
    obtain rfl := Except.ok.inj h
    exact Outline.namesOnce_valueOf (Outline.sound_ofNode ho) _

end Yaml

end DocTrace
