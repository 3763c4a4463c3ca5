/-!
# Errors of Go

An error value with what it wraps. `S` are the errors that programs compare with: they are found
by `errors.Is` under any number of wraps and joins, while the text of an error that is only
printed into another one is text.
-/

namespace Vee

inductive GoError (S : Type) where
  | text (message : String)
  | sentinel (s : S)
  /-- `fmt.Errorf` with one `%w`. -/
  | wrap (before : String) (err : GoError S) (behind : String)
  /-- `errors.Join`. -/
  | join (first second : GoError S)

namespace GoError

variable {S : Type}

/-- `Error()`. -/
def message (name : S → String) : GoError S → String
  | .text message => message
  | .sentinel s => name s
  | .wrap before err behind => before ++ err.message name ++ behind
  | .join first second => first.message name ++ "\n" ++ second.message name

/-- `errors.Is`. -/
def is [DecidableEq S] (s : S) : GoError S → Bool
  | .text _ => false
  | .sentinel other => other = s
  | .wrap _ err _ => err.is s
  | .join first second => first.is s || second.is s

/-- `errors.Join`, where `none` is `nil`. -/
def joinAll : List (GoError S) → Option (GoError S)
  | [] => none
  | err :: errs =>
    match joinAll errs with
    | none => some err
    | some rest => some (.join err rest)

theorem joinAll_eq_none {errs : List (GoError S)} : joinAll errs = none ↔ errs = [] := by
  cases errs with
  | nil => exact ⟨fun _ => rfl, fun _ => rfl⟩
  | cons err errs =>
    simp only [joinAll]
    split <;> simp

theorem is_joinAll [DecidableEq S] {s : S} {errs : List (GoError S)} {err : GoError S}
    (joined : joinAll errs = some err) : err.is s = errs.any (·.is s) := by
  induction errs generalizing err with
  | nil => cases joined
  | cons first errs ih =>
    simp only [joinAll] at joined
    split at joined
    · rename_i empty
      cases joined
      rw [joinAll_eq_none.mp empty]
      simp
    · rename_i rest found
      cases joined
      simp [is, ih found]

end GoError

end Vee
