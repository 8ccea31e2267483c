/-!
Conditions on the endings of a text, all looked at together. A row says of every
ending, the longest first, whether the condition holds of it; matchers work on
rows, so that no ending is looked at twice.
-/

namespace DocTrace.Text.Endings

/-- The row of a condition. -/
def row (rest : List Char → Bool) : List Char → List Bool
  | [] => [rest []]
  | c :: s => rest (c :: s) :: row rest s

@[simp] theorem head?_row (rest : List Char → Bool) (s : List Char) :
    (row rest s).head? = some (rest s) := by
  cases s <;> rfl

/-- Whether the first character is in a class and `rest` holds of what follows it. -/
def afterOne (p : Char → Bool) (rest : List Char → Bool) : List Char → Bool
  | [] => false
  | c :: s => p c && rest s

/-- Whether `rest` holds after some beginning whose characters are in a class. -/
def afterSome (p : Char → Bool) (rest : List Char → Bool) : List Char → Bool
  | [] => rest []
  | c :: s => rest (c :: s) || (p c && afterSome p rest s)

/-- The row of `afterOne`. -/
def stepRow (p : Char → Bool) : List Char → List Bool → List Bool
  | [], _ => [false]
  | c :: s, row => (p c && row.tail.headD false) :: stepRow p s row.tail

/-- The row of `afterSome`. -/
def spreadRow (p : Char → Bool) : List Char → List Bool → List Bool
  | [], row => row
  | c :: s, row =>
    let later := spreadRow p s row.tail
    (row.headD false || (p c && later.headD false)) :: later

/-- The row of what holds in one of two rows. -/
def orRow (xs ys : List Bool) : List Bool := List.zipWith (· || ·) xs ys

theorem stepRow_row (p : Char → Bool) (rest : List Char → Bool) (s : List Char) :
    stepRow p s (row rest s) = row (afterOne p rest) s := by
  induction s with
  | nil => rfl
  | cons c s ih => simp [row, stepRow, afterOne, ih]

theorem spreadRow_row (p : Char → Bool) (rest : List Char → Bool) (s : List Char) :
    spreadRow p s (row rest s) = row (afterSome p rest) s := by
  induction s with
  | nil => rfl
  | cons c s ih => simp [row, spreadRow, afterSome, ih]

theorem orRow_row (a b : List Char → Bool) (s : List Char) :
    orRow (row a s) (row b s) = row (fun t => a t || b t) s := by
  induction s with
  | nil => rfl
  | cons c s ih => simpa [row, orRow] using ih

end DocTrace.Text.Endings
