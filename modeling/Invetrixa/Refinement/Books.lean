import Invetrixa.Bookings

/-!
# Runs of bookings

The requests of a well-formed store are runs of bookings, each of which meets its guard where it
is made. What all bookings keep, all requests keep; what only some bookings keep holds under a
condition on the requests, and a `Discipline` says which of these conditions are asked for.

## Main definitions

- `Discipline`, `Books` — runs of bookings under the conditions asked for
- `LinesCovered` — each line of a list is covered after the lines before it

## Main results

- `Books.foldl`, `books_lines` — loops of bookings
-/

namespace Invetrixa

open Rowstore Requests

/-- The booking has nothing to do with a transfer: it leaves the rows of the transfers alone, and
its movement names none. -/
def Booking.Apart : Booking → Prop
  | .receipt _ m _ => m.transferId = none
  | .shipItem .. | .createTransfer _ | .updateTransfer _ _ => False
  | _ => True

/-- The issue is booked for a sale. -/
def Issue.ForSale (i : Issue) : Prop :=
  i.referenceType = .sale ∧ ∃ saleId, i.referenceId = some (.id saleId)

/-- The booking has nothing to do with a transfer or a sale: it moves other stock, or reserves. -/
def Booking.Plain : Booking → Prop
  | .receipt _ m _ => m.transferId = none
  | .issue i => ¬i.ForSale
  | .reserve _ | .amend .. | .writeSessions _ => True
  | _ => False

/-- The booking may belong to a transfer that is not being shipped. -/
def Booking.OfTransfer : Booking → Prop
  | .receipt .. | .createTransfer _ | .updateTransfer _ _ => True
  | _ => False

/-- The booking takes an item of a transfer out. -/
def Booking.ShipsItem : Booking → Prop
  | .shipItem .. => True
  | _ => False

/-- The booking takes nothing out for a sale. -/
def Booking.Unsold : Booking → Prop
  | .issue i => ¬i.ForSale
  | _ => True

theorem Booking.Plain.unsold {b : Booking} (h : b.Plain) : b.Unsold := by
  cases b with
  | issue => exact h
  | _ => trivial

theorem Booking.OfTransfer.unsold {b : Booking} (h : b.OfTransfer) : b.Unsold := by
  cases b with
  | issue => exact h.elim
  | _ => trivial

theorem Booking.Plain.apart {b : Booking} (h : b.Plain) : b.Apart := by
  cases b with
  | receipt => exact h
  | issue => trivial
  | reserve => trivial
  | amend => trivial
  | writeSessions => trivial
  | _ => exact h.elim

theorem Booking.Apart.not_shipsItem {b : Booking} (h : b.Apart) : ¬b.ShipsItem := by
  cases b with
  | shipItem => exact h.elim
  | _ => exact not_false

theorem Booking.OfTransfer.not_shipsItem {b : Booking} (h : b.OfTransfer) : ¬b.ShipsItem := by
  cases b with
  | shipItem => exact h.elim
  | _ => exact not_false

/-- Which conditions the bookings of a run are to meet besides their guards. Bookings that have
nothing to do with transfers and sales are always permitted. -/
structure Discipline where
  covered : Prop
  settled : Prop
  permits : Booking → Prop
  permits_plain : ∀ b, b.Plain → permits b

/-- The booking meets its guard and the conditions asked for. -/
def Booking.Admitted (d : Discipline) (s : Store) (b : Booking) : Prop :=
  b.Guard s ∧ (d.covered → b.Covered s.onHand) ∧ (d.settled → b.Settled s) ∧ d.permits b

/-- The runs of bookings under a discipline. -/
def Books (db : Database) (d : Discipline) : Store → Store → Prop :=
  Runs (book db) (Booking.Admitted d)

/-- Each line that takes stock out finds it on hand once the lines before it are booked. -/
def LinesCovered : (Id → Id → ℤ) → List Line → Prop
  | _, [] => True
  | onHand, line :: rest =>
    line.Covered onHand ∧ LinesCovered (fun p l => onHand p l + line.change p l) rest

instance decidableLinesCovered :
    (onHand : Id → Id → ℤ) → (lines : List Line) → Decidable (LinesCovered onHand lines)
  | _, [] => isTrue trivial
  | onHand, line :: rest =>
    have := decidableLinesCovered (fun p l => onHand p l + line.change p l) rest
    inferInstanceAs (Decidable (_ ∧ _))

variable {db : Database} {d : Discipline} {clock : Clock} {tenantId : Id} {s s' : Store}

namespace Books

theorem refl (s : Store) : Books db d s s := Relation.ReflTransGen.refl

theorem trans {s'' : Store} (h : Books db d s s') (h' : Books db d s' s'') : Books db d s s'' :=
  Relation.ReflTransGen.trans h h'

theorem single {b : Booking} (h : b.Admitted d s) : Books db d s (book db b s) :=
  Relation.ReflTransGen.single ⟨b, h, rfl⟩

theorem keeps (h : Books db d s s') (hs : WellFormed s) : WellFormed s' ∧ Extends s s' := by
  refine Runs.invariant (I := fun s' => WellFormed s' ∧ Extends s s') h
    ⟨hs, rfl, fun _ _ h => h⟩ ?_
  rintro s₁ b ⟨hs₁, hext⟩ hb
  have hext₁ := extends_book db hs₁ hb.1
  exact ⟨wellFormed_book hs₁ hb.1, hext₁.tenantOf.trans hext.tenantOf,
    fun p l hrow => hext₁.hasBalance p l (hext.hasBalance p l hrow)⟩

/-- A loop books when each of its turns does, on whatever the turns before made of the store. -/
theorem foldl {β : Type} {f : Store → β → Store} {items : List β} (hs : WellFormed s)
    (h : ∀ x ∈ items, ∀ s', WellFormed s' → Extends s s' → Books db d s' (f s' x)) :
    Books db d s (items.foldl f s) := by
  induction items generalizing s with
  | nil => exact refl s
  | cons x rest ih =>
    have hfirst := h x List.mem_cons_self s hs ⟨rfl, fun _ _ h => h⟩
    obtain ⟨hs₁, hext₁⟩ := hfirst.keeps hs
    refine hfirst.trans (ih hs₁ fun y hy s' hs' hext => ?_)
    exact h y (List.mem_cons_of_mem _ hy) s' hs' ⟨hext.tenantOf.trans hext₁.tenantOf,
      fun p l hrow => hext.hasBalance p l (hext₁.hasBalance p l hrow)⟩

end Books

section Lines

/-- The guard of a booking that moves stock holds as long as products and balance rows stay. -/
theorem guard_of_extends {b : Booking} {line : Line} (hline : b.line = some line)
    (hext : Extends s s') (hb : b.Guard s) : b.Guard s' := by
  cases b with
  | receipt => exact ⟨hb.1, hb.2.1, by rw [hext.tenantOf]; exact hb.2.2⟩
  | issue => exact ⟨hb.1, hext.stocked hb.2⟩
  | shipItem => exact ⟨hb.1, hext.stocked hb.2⟩
  | voidItem => exact ⟨hb.1, hext.stocked hb.2⟩
  | _ => cases hline

theorem settled_of_line {b : Booking} {line : Line} (hline : b.line = some line) :
    b.Settled s := by
  cases b with
  | fulfill => cases hline
  | _ => trivial

/-- A loop of stock lines books when every line meets its guard before the loop and, if asked
for, the lines are covered one after another. -/
theorem books_lines {β : Type} {items : List β} (label : β → Booking) (line : β → Line)
    (hs : WellFormed s) (hline : ∀ x ∈ items, (label x).line = some (line x))
    (hcover : ∀ x ∈ items, ∀ onHand, (line x).Covered onHand → (label x).Covered onHand)
    (hguard : ∀ x ∈ items, (label x).Guard s)
    (hpermits : ∀ x ∈ items, d.permits (label x))
    (hcovered : d.covered → LinesCovered s.onHand (items.map line)) :
    Books db d s (items.foldl (fun s x => book db (label x) s) s) := by
  induction items generalizing s with
  | nil => exact Books.refl s
  | cons x rest ih =>
    have hx := hguard x List.mem_cons_self
    have hlinex := hline x List.mem_cons_self
    have hext := extends_book db hs hx
    have hadmitted : (label x).Admitted d s :=
      ⟨hx, fun hd => hcover x List.mem_cons_self _ (hcovered hd).1, fun _ => settled_of_line hlinex,
        hpermits x List.mem_cons_self⟩
    have hafter : (book db (label x) s).onHand = fun p l => s.onHand p l + (line x).change p l := by
      funext p l
      rw [onHand_book hs hx, Booking.change, hlinex]
      rfl
    refine (Books.single hadmitted).trans (ih (wellFormed_book hs hx)
      (fun y hy => hline y (List.mem_cons_of_mem _ hy))
      (fun y hy => hcover y (List.mem_cons_of_mem _ hy))
      (fun y hy => ?_) (fun y hy => hpermits y (List.mem_cons_of_mem _ hy)) fun hd => ?_)
    · exact guard_of_extends (hline y (List.mem_cons_of_mem _ hy)) hext
        (hguard y (List.mem_cons_of_mem _ hy))
    · rw [hafter]
      exact (hcovered hd).2

end Lines

end Invetrixa
