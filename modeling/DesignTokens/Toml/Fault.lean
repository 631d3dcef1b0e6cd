import DesignTokens.Number.Digits

/-!
# Faults of settings files

A settings file is malformed where a part of it does not have the form that it needs
there. A decimal whole number of too many digits is a fault of its own, met where the
number stands: what follows it is not looked at.
-/

namespace DesignTokens.Toml

/-- Why a settings file is not read. -/
inductive Fault where
  | malformed
  | digits (fault : Number.DigitFault)
  deriving DecidableEq, Repr

/-- A part that a file needs; without it the file is malformed. -/
def required {α : Type} : Option α → Except Fault α
  | some a => .ok a
  | none => .error .malformed

@[simp] theorem required_some {α : Type} (a : α) : required (some a) = .ok a := rfl

@[simp] theorem required_none {α : Type} : required (none : Option α) = .error .malformed := rfl

end DesignTokens.Toml
