import Std.Data.ExtTreeMap
import TouchOverlay.ControlId

/-!
# Pointer claims

A control that withholds its contacts from the application below claims the pointer of each. The
first claimant keeps a pointer until it is released. Every control of a surface, and anyone else
who shares the pointers, works on one value of `Claims`; `owner?` is the view that the lemmas are
stated on.
-/

namespace TouchOverlay

/-- Number of a touch contact, the same from press to release. -/
abbrev PointerId := UInt32

/-- Controls by pointer. -/
abbrev PointerMap := Std.ExtTreeMap PointerId ControlId compare

/-- Which control has claimed each pointer. -/
@[ext]
structure Claims where
  owners : PointerMap := ∅
deriving Inhabited

namespace Claims

variable (c : Claims) (p q : PointerId) (i j : ControlId)

def empty : Claims := {}

/-- The control that has claimed a pointer. -/
def owner? : Option ControlId := c.owners[p]?

/-- Whether a pointer is withheld from the application. -/
def isClaimed : Bool := (c.owner? p).isSome

def count : Nat := c.owners.size

/-- Claims a pointer for a control, which fails if another control has it. -/
def claim : Bool × Claims :=
  match c.owner? p with
  | some owner => (owner = i, c)
  | none => (true, ⟨c.owners.insert p i⟩)

/-- Drops the claim on a pointer, whoever has it. -/
def release : Claims := ⟨c.owners.erase p⟩

/-- Drops the claim on a pointer if the control has it, and says whether it had. -/
def releaseIfOwner : Bool × Claims :=
  if c.owner? p = some i then (true, c.release p) else (false, c)

/-- Takes a pointer for a control at the start of a contact: a withholding control claims it, a
pass-through control only needs that no other control has it. `none` is a refusal. -/
def take? (passThrough : Bool) : Option Claims :=
  if passThrough then
    if (c.owner? p).all (· = i) then some c else none
  else
    match c.claim p i with
    | (true, c') => some c'
    | (false, _) => none

/-- Lets go of a pointer at the end of a contact. A pass-through control has no claim to drop. -/
def drop (passThrough : Bool) : Claims := if passThrough then c else (c.releaseIfOwner p i).2

/-! ## Owners after each operation -/

variable {c p q i j}

theorem ext_owner {d : Claims} (h : ∀ p, c.owner? p = d.owner? p) : c = d :=
  Claims.ext (Std.ExtTreeMap.ext_getElem? h)

@[simp] theorem owner?_empty : empty.owner? p = none := by simp [empty, owner?]

theorem owner?_release : (c.release p).owner? q = if p = q then none else c.owner? q := by
  simp [release, owner?, Std.ExtTreeMap.getElem?_erase, Std.LawfulEqCmp.compare_eq_iff_eq]

theorem owner?_releaseIfOwner : (c.releaseIfOwner p i).2.owner? q =
    if p = q ∧ c.owner? p = some i then none else c.owner? q := by
  unfold releaseIfOwner
  split <;> simp_all [owner?_release]

theorem owner?_claim : (c.claim p i).2.owner? q =
    if p = q then some ((c.owner? p).getD i) else c.owner? q := by
  unfold claim
  split
  · rename_i h; split <;> simp_all
  · rename_i h
    simp only [owner?] at h ⊢
    simp [Std.ExtTreeMap.getElem?_insert, Std.LawfulEqCmp.compare_eq_iff_eq, h]

theorem claim_fst : (c.claim p i).1 = true ↔ c.owner? p = none ∨ c.owner? p = some i := by
  unfold claim
  split <;> simp_all

end Claims

end TouchOverlay
