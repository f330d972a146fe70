/-
  Values taken as integers.

  A number loses its fraction, and a text is read as digits, of which there may be any
  number. What is no integer that way is a fault with its own wording, in which a long
  literal is cut off.
-/
import PropTutor.Json.Basic
import PropTutor.Text.Integer
import PropTutor.Text.Quoted

namespace PropTutor

/-- Why a value cannot be taken as an integer. -/
inductive IntegerFault where
  /-- Values of this kind are neither numbers nor texts. -/
  | wrongKind (kind : String)
  /-- The quoted literal spells no integer in this base. -/
  | badDigits (base : Nat) (literal : String)
  | notANumber
  | infinite
  deriving DecidableEq

/-- As many characters of a quoted literal are shown. -/
def literalLimit : Nat := 200

/-- The wording of a fault. -/
def IntegerFault.message : IntegerFault → String
  | wrongKind kind =>
      "int() argument must be a string, a bytes-like object or a real number, not '" ++ kind ++ "'"
  | badDigits base literal =>
      "invalid literal for int() with base " ++ toString base ++ ": "
        ++ Text.shortened literalLimit literal
  | notANumber => "cannot convert float NaN to integer"
  | infinite => "cannot convert float infinity to integer"

/-- A number without its fraction. -/
def Binary64.toInteger (x : Binary64) : Except IntegerFault Int :=
  match x with
  | .nan => .error .notANumber
  | .infinite _ => .error .infinite
  | .finite negative m e => .ok (Binary64.whole negative m e)

theorem Binary64.toInteger_eq_infinite {x : Binary64} :
    x.toInteger = .error .infinite ↔ ∃ negative, x = .infinite negative := by
  cases x with
  | infinite negative => exact iff_of_true rfl ⟨negative, rfl⟩
  | nan => exact iff_of_false nofun fun ⟨_, h⟩ => nomatch h
  | finite negative m e => exact iff_of_false nofun fun ⟨_, h⟩ => nomatch h

/-- The integer that a text spells. -/
def Text.toInteger (s : String) : Except IntegerFault Int :=
  match Text.integer? s with
  | some n => .ok n
  | none => .error (.badDigits 10 (Text.quoted s))

theorem Text.toInteger_ne_infinite (s : String) : Text.toInteger s ≠ .error .infinite := by
  unfold Text.toInteger
  split <;> exact nofun

/-- A JSON value as an integer. -/
def Json.toInteger : Json → Except IntegerFault Int
  | int n => .ok n
  | bool b => .ok (if b then 1 else 0)
  | float x => x.toInteger
  | str s => Text.toInteger s
  | v => .error (.wrongKind v.kindName)

/-- Only an infinite number is too large for an integer. -/
theorem Json.toInteger_eq_infinite {v : Json} :
    v.toInteger = .error .infinite ↔ ∃ negative, v = .float (.infinite negative) := by
  cases v with
  | float x =>
    simp only [Json.float.injEq]
    exact Binary64.toInteger_eq_infinite
  | str s => exact iff_of_false (Text.toInteger_ne_infinite s) fun ⟨_, h⟩ => nomatch h
  | _ => exact iff_of_false nofun fun ⟨_, h⟩ => nomatch h

end PropTutor
