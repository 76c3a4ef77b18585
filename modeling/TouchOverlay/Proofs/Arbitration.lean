import Mathlib.Logic.Function.Basic
import TouchOverlay.Proofs.ClaimProtocol

/-!
# Claims of controls without a surface

A `Panel` is any number of controls at one desk that are called directly, in any order and on any
pointers: no routes keep a contact from being offered to two of them. What keeps them apart is the
table of claims alone. A withholding control has the claim on the pointer of its contact and no
other claim; a pass-through control has a contact and no claim, and leaves those of others alone
(`Panel.Arbitrated`). A call changes the contact of one control and the claims of the same one
(`Behaviour.answer_cases`), so the invariant survives it whatever the others do meanwhile.
-/

namespace TouchOverlay

namespace Behaviour

inductive Call
  | down (p : PointerId) (spot : Point)
  | move (p : PointerId) (spot : Point)
  | up (p : PointerId)
  | timer (h : TimerHandle)
  | resetToggle
  | detach

def answer (sv : Services) (site : Site) (b : Behaviour) (d : Desk) : Call → Reaction Behaviour
  | .down p spot => b.down sv site p spot d
  | .move p spot => b.move sv site p spot d
  | .up p => b.up site p d
  | .timer h => b.timer sv site d h
  | .resetToggle => b.resetToggle site d
  | .detach => b.detach site d

theorem pointer?_detach (b : Behaviour) (site : Site) (d : Desk) :
    (b.detach site d).state.pointer? = none := by
  cases b with
  | button b =>
    show (b.detach site d).state.pointer? = none
    unfold Button.detach
    split
    · rfl
    · rename_i hb
      exact hb
  | directionPad pad =>
    show (pad.detach site d).state.pointer? = none
    unfold DirectionPad.detach
    split
    · rfl
    · rename_i hb
      exact hb
  | touchpad pad => rfl

/-- A call takes a pointer for a control without a contact, or keeps its contact, or ends it. -/
theorem answer_cases (sv : Services) (site : Site) (b : Behaviour) (d : Desk) (c : Call) :
    let r := b.answer sv site d c
    (∃ p, b.pointer? = none ∧ r.state.pointer? = some p ∧
        d.claims.take? p site.id site.passThrough = some r.desk.claims) ∨
      (r.state.pointer? = b.pointer? ∧ r.desk.claims = d.claims) ∨
      ∃ p, b.pointer? = some p ∧ r.state.pointer? = none ∧
        r.desk.claims = d.claims.drop p site.id site.passThrough := by
  intro r
  cases c with
  | down p spot =>
    rcases b.down_cases sv site p spot d with ⟨hr, -⟩ | ht
    · have hr : r = .ignored b d := hr
      rw [hr]
      exact .inr (.inl ⟨rfl, rfl⟩)
    · exact .inl ⟨p, ht.free, ht.pointer, ht.claims⟩
  | move p spot =>
    have hk := (b.keeps_move sv site p spot d).1
    exact .inr (.inl ⟨hk.pointer, hk.claims⟩)
  | up p =>
    by_cases hb : b.pointer? = some p
    · have hd := drops_up site d hb
      exact .inr (.inr ⟨p, hb, hd.pointer, hd.claims⟩)
    · have hr : r = .ignored b d := up_of_ne site d hb
      rw [hr]
      exact .inr (.inl ⟨rfl, rfl⟩)
  | timer h =>
    obtain ⟨hp, hc, -⟩ := b.timer_frame sv site d h
    exact .inr (.inl ⟨hp, hc⟩)
  | resetToggle =>
    have hk := b.keeps_resetToggle site d
    exact .inr (.inl ⟨hk.pointer, hk.claims⟩)
  | detach =>
    have hnone : r.state.pointer? = none := b.pointer?_detach site d
    have hc : r.desk.claims = b.pointer?.elim d.claims _ := b.claims_detach site d
    cases hb : b.pointer? with
    | none =>
      rw [hb] at hc
      exact .inr (.inl ⟨hnone, hc⟩)
    | some p =>
      rw [hb] at hc
      exact .inr (.inr ⟨p, rfl, hnone, hc⟩)

end Behaviour

/-- What is fixed about a control that is called directly. -/
structure Member where
  services : Services := {}
  id : ControlId
  passThrough : Bool := false
  kind : ControlKind

def Member.site (m : Member) (bounds : Rect) (size : SurfaceSize) : Site :=
  { id := m.id, passThrough := m.passThrough, bounds, surface := size }

/-- Controls that share a desk. -/
structure Panel (ι : Type) where
  desk : Desk := {}
  sessions : ι → Behaviour

namespace Panel

/-- A call on one of the controls, whose rectangle and surface come with the call, or anything that
others do with the timers. -/
inductive Event (ι : Type)
  | call (i : ι) (bounds : Rect) (size : SurfaceSize) (c : Behaviour.Call)
  | timers (q : TimerQueue)

variable {ι : Type} {ms : ι → Member} {s : Panel ι} {evs : List (Event ι)} {i j : ι} {p : PointerId}

/-- Every control in its initial state, and no claims. -/
def fresh (ms : ι → Member) : Panel ι where
  sessions i := .ofKind (ms i).kind

def pointer? (s : Panel ι) (i : ι) : Option PointerId := (s.sessions i).pointer?

/-- The control withholds a contact on the pointer. -/
def Withholds (ms : ι → Member) (s : Panel ι) (i : ι) (p : PointerId) : Prop :=
  (ms i).passThrough = false ∧ s.pointer? i = some p

/-- The claims are the pointers of the contacts that are withheld. -/
def Arbitrated (ms : ι → Member) (s : Panel ι) : Prop :=
  ∀ p id, s.desk.claims.owner? p = some id ↔ ∃ i, (ms i).id = id ∧ s.Withholds ms i p

namespace Arbitrated

theorem fresh (ms : ι → Member) : (Panel.fresh ms).Arbitrated ms := by
  intro p id
  constructor
  · intro ho
    rw [Panel.fresh, Claims.owner?] at ho
    simp at ho
  · rintro ⟨i, -, -, hp⟩
    have hnone : (Panel.fresh ms).pointer? i = none := Behaviour.pointer?_ofKind (ms i).kind
    rw [hnone] at hp
    cases hp

theorem owner?_eq (ha : s.Arbitrated ms) (hw : s.Withholds ms i p) :
    s.desk.claims.owner? p = some (ms i).id :=
  (ha p (ms i).id).2 ⟨i, rfl, hw⟩

theorem withholds_unique (ha : s.Arbitrated ms) (hid : Function.Injective fun i => (ms i).id)
    (hi : s.Withholds ms i p) (hj : s.Withholds ms j p) : i = j :=
  hid (Option.some.inj ((ha.owner?_eq hi).symm.trans (ha.owner?_eq hj)))

theorem claimIsConsistent (ha : s.Arbitrated ms) {b : Button} (hb : s.sessions i = .button b)
    (bounds : Rect) (size : SurfaceSize) :
    b.claimIsConsistent ((ms i).site bounds size) s.desk = true := by
  have hpointer : s.pointer? i = b.pointer? := congrArg Behaviour.pointer? hb
  unfold Button.claimIsConsistent
  split
  · rename_i p hp
    cases hpass : (ms i).passThrough with
    | true => simp [Member.site, hpass]
    | false =>
      have ho := ha.owner?_eq ⟨hpass, hpointer.trans hp⟩
      simp [Member.site, ho]
  · rfl

/-- A pointer that is withheld is refused to everybody else. -/
theorem down_of_withholds (ha : s.Arbitrated ms) (hid : Function.Injective fun i => (ms i).id)
    (hw : s.Withholds ms i p) (hne : j ≠ i) (bounds : Rect) (size : SurfaceSize) (spot : Point) :
    (s.sessions j).down (ms j).services ((ms j).site bounds size) p spot s.desk =
      .ignored (s.sessions j) s.desk := by
  rcases (s.sessions j).down_cases (ms j).services ((ms j).site bounds size) p spot s.desk with
    ⟨hr, -⟩ | ht
  · exact hr
  · rcases (Claims.take?_eq_some ht.claims).1 with hnone | hsome
    · rw [ha.owner?_eq hw] at hnone
      cases hnone
    · rw [ha.owner?_eq hw] at hsome
      exact absurd (hid (Option.some.inj hsome)).symm hne

end Arbitrated

/-! ## Calls -/

variable [DecidableEq ι]

def place (s : Panel ι) (i : ι) (r : Reaction Behaviour) : Panel ι :=
  { desk := r.desk, sessions := fun j => if j = i then r.state else s.sessions j }

def step (ms : ι → Member) (s : Panel ι) : Event ι → Panel ι
  | .call i bounds size c =>
    s.place i ((s.sessions i).answer (ms i).services ((ms i).site bounds size) s.desk c)
  | .timers q => { s with desk := { s.desk with timers := q } }

def run (ms : ι → Member) (s : Panel ι) (evs : List (Event ι)) : Panel ι := evs.foldl (step ms) s

section place
variable {r : Reaction Behaviour}

theorem pointer?_place_self : (s.place i r).pointer? i = r.state.pointer? := by
  simp [place, pointer?]

theorem pointer?_place_of_ne (hne : j ≠ i) : (s.place i r).pointer? j = s.pointer? j := by
  simp [place, pointer?, hne]

theorem withholds_place_of_ne (hne : j ≠ i) :
    (s.place i r).Withholds ms j p ↔ s.Withholds ms j p := by
  rw [Withholds, Withholds, pointer?_place_of_ne hne]

end place

namespace Arbitrated

variable {r : Reaction Behaviour}

theorem take (ha : s.Arbitrated ms) (hid : Function.Injective fun i => (ms i).id)
    (hfree : s.pointer? i = none) (hp : r.state.pointer? = some p)
    (htake : s.desk.claims.take? p (ms i).id (ms i).passThrough = some r.desk.claims) :
    (s.place i r).Arbitrated ms := by
  obtain ⟨hown, howner⟩ := Claims.take?_eq_some htake
  have hnot : ∀ q, ¬ s.Withholds ms i q := by
    rintro q ⟨-, hq⟩
    rw [hfree] at hq
    cases hq
  intro q id
  show r.desk.claims.owner? q = some id ↔ _
  rw [howner q]
  constructor
  · intro h
    split at h
    · rename_i hpq
      obtain ⟨hpass, rfl⟩ := hpq
      exact ⟨i, Option.some.inj h, hpass, pointer?_place_self.trans hp⟩
    · obtain ⟨j, hj, hw⟩ := (ha q id).1 h
      have hne : j ≠ i := fun he => hnot q (he ▸ hw)
      exact ⟨j, hj, (withholds_place_of_ne hne).2 hw⟩
  · rintro ⟨j, rfl, hw⟩
    by_cases hne : j = i
    · subst hne
      obtain ⟨hpass, hq⟩ := hw
      rw [pointer?_place_self, hp] at hq
      rw [if_pos ⟨hpass, Option.some.inj hq⟩]
    · have hw : s.Withholds ms j q := (withholds_place_of_ne hne).1 hw
      rw [if_neg]
      · exact ha.owner?_eq hw
      · -- the pointer was free for `i`, so nobody else withheld it
        rintro ⟨-, rfl⟩
        rw [ha.owner?_eq hw] at hown
        rcases hown with hnone | hsome
        · cases hnone
        · exact hne (hid (Option.some.inj hsome))

theorem keep (ha : s.Arbitrated ms) (hp : r.state.pointer? = s.pointer? i)
    (hc : r.desk.claims = s.desk.claims) : (s.place i r).Arbitrated ms := by
  have hpointer : ∀ j, (s.place i r).pointer? j = s.pointer? j := by
    intro j
    by_cases hne : j = i
    · subst hne
      exact pointer?_place_self.trans hp
    · exact pointer?_place_of_ne hne
  intro q id
  show r.desk.claims.owner? q = some id ↔ _
  simp only [hc, Withholds, hpointer]
  exact ha q id

theorem drop (ha : s.Arbitrated ms) (hid : Function.Injective fun i => (ms i).id)
    (hi : s.pointer? i = some p) (hp : r.state.pointer? = none)
    (hc : r.desk.claims = s.desk.claims.drop p (ms i).id (ms i).passThrough) :
    (s.place i r).Arbitrated ms := by
  intro q id
  show r.desk.claims.owner? q = some id ↔ _
  rw [hc, Claims.owner?_drop]
  constructor
  · intro h
    split at h
    · cases h
    · -- a claim that stays is not that of `i`, whose one contact has ended
      rename_i hkept
      obtain ⟨j, hj, hw⟩ := (ha q id).1 h
      have hne : j ≠ i := by
        rintro rfl
        obtain rfl : p = q := Option.some.inj (hi.symm.trans hw.2)
        exact hkept ⟨hw.1, rfl, ha.owner?_eq hw⟩
      exact ⟨j, hj, (withholds_place_of_ne hne).2 hw⟩
  · rintro ⟨j, rfl, hw⟩
    have hne : j ≠ i := by
      rintro rfl
      have hsome := hw.2
      rw [pointer?_place_self, hp] at hsome
      cases hsome
    have hw : s.Withholds ms j q := (withholds_place_of_ne hne).1 hw
    rw [if_neg]
    · exact ha.owner?_eq hw
    · rintro ⟨-, rfl, ho⟩
      rw [ha.owner?_eq hw] at ho
      exact hne (hid (Option.some.inj ho))

theorem step (ha : s.Arbitrated ms) (hid : Function.Injective fun i => (ms i).id) (e : Event ι) :
    (s.step ms e).Arbitrated ms := by
  cases e with
  | call i bounds size c =>
    rcases (s.sessions i).answer_cases (ms i).services ((ms i).site bounds size) s.desk c with
      ⟨p, hfree, hp, htake⟩ | ⟨hp, hc⟩ | ⟨p, hi, hp, hc⟩
    · exact ha.take hid hfree hp htake
    · exact ha.keep hp hc
    · exact ha.drop hid hi hp hc
  | timers q => exact ha

theorem run (ha : s.Arbitrated ms) (hid : Function.Injective fun i => (ms i).id)
    (evs : List (Event ι)) : (s.run ms evs).Arbitrated ms := by
  induction evs generalizing s with
  | nil => exact ha
  | cons e evs ih => exact ih (ha.step hid e)

end Arbitrated

/-- **The table of claims arbitrates without a surface.** Controls with distinct identifiers, no
claims at first, and calls on them in any order, on any pointers, and with any rectangles. The owner
of a pointer is always the withholding control whose contact is on it, so the claim of every button
is consistent and no pointer is withheld by two controls. While a pointer is withheld, every other
control ignores a contact on it: its session, the claims and the timers stay as they are, and nothing
is asked for. -/
theorem claims_follow_contacts (ms : ι → Member) (hid : Function.Injective fun i => (ms i).id)
    (evs : List (Event ι)) :
    let s := (fresh ms).run ms evs
    (∀ p id, s.desk.claims.owner? p = some id ↔
      ∃ i, (ms i).id = id ∧ (ms i).passThrough = false ∧ s.pointer? i = some p) ∧
    (∀ i b, s.sessions i = .button b → ∀ bounds size,
      b.claimIsConsistent ((ms i).site bounds size) s.desk = true) ∧
    ∀ i p, (ms i).passThrough = false → s.pointer? i = some p → ∀ j, j ≠ i →
      ¬ ((ms j).passThrough = false ∧ s.pointer? j = some p) ∧
      ∀ bounds size spot,
        (s.sessions j).down (ms j).services ((ms j).site bounds size) p spot s.desk =
          { state := s.sessions j, desk := s.desk, requests := [], consumed := false } := by
  intro s
  have ha : s.Arbitrated ms := (Arbitrated.fresh ms).run hid evs
  refine ⟨ha, fun i b hb bounds size => ha.claimIsConsistent hb bounds size, ?_⟩
  intro i p hpass hp j hne
  have hw : s.Withholds ms i p := ⟨hpass, hp⟩
  exact ⟨fun hj => hne (ha.withholds_unique hid hj hw),
    fun bounds size spot => ha.down_of_withholds hid hw hne bounds size spot⟩

/-- A pass-through touchpad, a button and a direction pad. -/
def three : Fin 3 → Member
  | 0 => { id := .ofNat 1, passThrough := true, kind := .touchpad true }
  | 1 => { id := .ofNat 2, kind := .button (.key 30) false }
  | 2 => { id := .ofNat 3, kind := .directionPad ⟨.key 17, .key 32, .key 31, .key 30⟩ }

/-- The touchpad gets a contact, and so does the button, on the same pointer. -/
def offeredTwice : List (Event (Fin 3)) :=
  [.call 0 ⟨0, 0, 100, 100⟩ ⟨100, 100⟩ (.down 5 ⟨10, 10⟩),
    .call 1 ⟨0, 0, 50, 50⟩ ⟨100, 100⟩ (.down 5 ⟨10, 10⟩)]

theorem claims_follow_contacts_of_offeredTwice :
    (Function.Injective fun i => (three i).id) ∧
      let s := (fresh three).run three offeredTwice
      s.pointer? 0 = some 5 ∧ s.pointer? 1 = some 5 ∧
        s.desk.claims.owner? 5 = some (three 1).id ∧
        ∀ bounds size spot,
          ((s.sessions 2).down {} ((three 2).site bounds size) 5 spot s.desk).consumed = false := by
  have hid : ∀ i j, (three i).id = (three j).id → i = j := by decide +kernel
  obtain ⟨howner, -, hrefused⟩ := claims_follow_contacts three (fun i j => hid i j) offeredTwice
  have hp : ((fresh three).run three offeredTwice).pointer? 1 = some 5 := by decide +kernel
  refine ⟨fun i j => hid i j, by decide +kernel, hp, (howner 5 _).2 ⟨1, rfl, rfl, hp⟩, fun bounds size spot => ?_⟩
  exact congrArg Reaction.consumed ((hrefused 1 5 rfl hp 2 (by decide)).2 bounds size spot)

end Panel
end TouchOverlay
