import CartCriteria.Condition.Printer
import CartCriteria.Proofs.Condition.Shape
import CartCriteria.Proofs.Json.CompactReading

/-! What a condition is shown as tells the condition. The texts of an equality with an object and of
one with any other value begin alike, and it is the value that tells them apart; all other kinds of
conditions begin differently, and what is behind a condition does not go on its text. -/
namespace CartCriteria

open Numeral (Ends ends_cons)

section Listed

variable {α : Type} {text : α → List Char} {close : Char} {rest more : List Char}

private def listedTail (close : Char) : List (List Char) → List Char
  | [] => [close]
  | next :: rest => ',' :: ' ' :: (next ++ listedTail close rest)

private theorem commaListed_cons (first : List Char) (next : List (List Char)) :
    Text.commaListed (first :: next) ++ close :: rest =
      first ++ (listedTail close next ++ rest) := by
  induction next generalizing first with
  | nil => rfl
  | cons second next ih =>
    rw [Text.commaListed, List.append_assoc, List.cons_append, List.cons_append, ih, listedTail,
      List.cons_append, List.cons_append, List.append_assoc]

private theorem ends_listedTail (hclose : Ends [close]) (texts : List (List Char)) :
    Ends (listedTail close texts ++ rest) := by
  cases texts with
  | nil => exact ends_cons.mpr (ends_cons.mp hclose)
  | cons next texts => exact ends_cons.mpr (by decide)

private theorem listedTail_cancel (hcomma : close ≠ ',') (hclose : Ends [close]) {xs ys : List α}
    (hcancel : ∀ x ∈ xs, ∀ y ∈ ys, ∀ {rest more : List Char}, Ends rest → Ends more →
      text x ++ rest = text y ++ more → x = y ∧ rest = more)
    (h : listedTail close (xs.map text) ++ rest = listedTail close (ys.map text) ++ more) :
    xs = ys ∧ rest = more := by
  induction xs generalizing ys with
  | nil =>
    cases ys with
    | nil => exact ⟨rfl, List.append_cancel_left h⟩
    | cons y ys => exact absurd (List.cons.inj h).1 hcomma
  | cons x xs ih =>
    cases ys with
    | nil => exact absurd (List.cons.inj h).1.symm hcomma
    | cons y ys =>
      simp only [List.map_cons, listedTail, List.cons_append, List.append_assoc, List.cons.injEq,
        true_and] at h
      obtain ⟨rfl, htail⟩ := hcancel x List.mem_cons_self y List.mem_cons_self
        (ends_listedTail hclose _) (ends_listedTail hclose _) h
      obtain ⟨rfl, hrest⟩ := ih (fun x hx y hy => hcancel x (List.mem_cons_of_mem _ hx) y
        (List.mem_cons_of_mem _ hy)) htail
      exact ⟨rfl, hrest⟩

private theorem commaListed_cancel (hcomma : close ≠ ',') (hclose : Ends [close]) {xs ys : List α}
    (hstart : ∀ a {rest more : List Char}, close :: rest ≠ text a ++ more)
    (hcancel : ∀ x ∈ xs, ∀ y ∈ ys, ∀ {rest more : List Char}, Ends rest → Ends more →
      text x ++ rest = text y ++ more → x = y ∧ rest = more)
    (h : Text.commaListed (xs.map text) ++ close :: rest =
      Text.commaListed (ys.map text) ++ close :: more) : xs = ys ∧ rest = more := by
  cases xs with
  | nil =>
    cases ys with
    | nil => exact ⟨rfl, (List.cons.inj h).2⟩
    | cons y ys =>
      rw [List.map_cons, commaListed_cons] at h
      exact absurd h (hstart y)
  | cons x xs =>
    cases ys with
    | nil =>
      rw [List.map_cons, commaListed_cons] at h
      exact absurd h.symm (hstart x)
    | cons y ys =>
      -- With a comma in front, both are what follows a first member.
      have htails : listedTail close ((x :: xs).map text) ++ rest =
          listedTail close ((y :: ys).map text) ++ more := by
        rw [List.map_cons, List.map_cons, commaListed_cons, commaListed_cons] at h
        simp only [List.map_cons, listedTail, List.cons_append, List.append_assoc, h]
      exact listedTail_cancel hcomma hclose hcancel htails

end Listed

namespace Condition
open Json (compactChars_cancel)

def opening : Condition → String
  | literal _ | unrecognized _ => "== "
  | compare .gt _ => "> "
  | compare .lt _ => "< "
  | compare .gte _ => ">= "
  | compare .lte _ => "<= "
  | isIn _ => "in ["
  | all _ => "and("
  | any _ => "or("
  | invalid _ => "invalid "

def openings : List String :=
  ["== ", "> ", "< ", ">= ", "<= ", "in [", "and(", "or(", "invalid "]

def body : Condition → List Char
  | literal v | compare _ v | unrecognized v | invalid v => v.compactChars
  | isIn candidates => Text.commaListed (candidates.map Json.compactChars) ++ [']']
  | all operands | any operands => Text.commaListed (operands.map displayChars) ++ [')']

private theorem opening_mem (c : Condition) : c.opening ∈ openings := by
  cases c with
  | compare op _ => cases op <;> simp [opening, openings]
  | _ => simp [opening, openings]

private theorem displayEach_eq (operands : List Condition) :
    displayEach operands = operands.map displayChars := by
  induction operands with
  | nil => rfl
  | cons c rest ih => rw [displayEach, ih, List.map_cons]

private theorem displayChars_eq (c : Condition) : c.displayChars = c.opening.toList ++ c.body := by
  rw [displayChars.eq_def]
  cases c with
  | literal v | unrecognized v =>
    dsimp only [opening, body]
    rfl
  | compare op bound =>
    cases op <;>
    · dsimp only [opening, body]
      rfl
  | isIn | invalid => dsimp only [opening, body]
  | all operands | any operands =>
    dsimp only [opening, body]
    rw [displayEach_eq]

private theorem openings_prefix_free :
    ∀ a ∈ openings, ∀ b ∈ openings, a.toList <+: b.toList → a = b := by
  decide

variable {c d : Condition} {rest more : List Char}

private theorem opening_cancel (h : c.displayChars ++ rest = d.displayChars ++ more) :
    c.opening = d.opening ∧ c.body ++ rest = d.body ++ more := by
  rw [displayChars_eq, displayChars_eq, List.append_assoc, List.append_assoc] at h
  have hopening : c.opening = d.opening := by
    have hc : c.opening.toList <+: d.opening.toList ++ (d.body ++ more) := ⟨_, h⟩
    have hd : d.opening.toList <+: d.opening.toList ++ (d.body ++ more) := ⟨_, rfl⟩
    rcases List.prefix_or_prefix_of_prefix hc hd with hbegins | hbegins
    · exact openings_prefix_free _ c.opening_mem _ d.opening_mem hbegins
    · exact (openings_prefix_free _ d.opening_mem _ c.opening_mem hbegins).symm
  rw [hopening] at h
  exact ⟨hopening, List.append_cancel_left h⟩

private theorem close_ne_displayChars (c : Condition) : ')' :: rest ≠ c.displayChars ++ more := by
  have hfirst : ∀ a ∈ openings, a.toList.head?.any (· != ')') = true := by decide
  have hc := hfirst _ c.opening_mem
  intro h
  rw [displayChars_eq, List.append_assoc] at h
  cases hopening : c.opening.toList with
  | nil =>
    rw [hopening] at hc
    cases hc
  | cons x tail =>
    rw [hopening] at h hc
    cases (List.cons.inj h).1
    cases hc

def IsDenoted (c : Condition) : Prop :=
  ∃ v, ofJson v = c

/-- A literal that a value denotes is no object, and what has no operator is one. -/
theorem IsDenoted.literal_ne_unrecognized {v w : Json} (hv : (literal v).IsDenoted)
    (hw : (unrecognized w).IsDenoted) : v ≠ w := by
  obtain ⟨x, hx⟩ := hv
  obtain ⟨y, hy⟩ := hw
  have hreadx := readAs_ofJson x
  have hready := readAs_ofJson y
  rw [hx] at hreadx
  rw [hy] at hready
  cases hreadx with
  | literal hnone =>
    cases hready with
    | unrecognized _ =>
      rintro rfl
      cases hnone

/-- What a denoted condition is made of is denoted too. -/
theorem IsDenoted.operands (h : c.IsDenoted) : ∀ operand ∈ c.operands, operand.IsDenoted := by
  obtain ⟨v, rfl⟩ := h
  intro operand hoperand
  rw [operands_ofJson] at hoperand
  obtain ⟨m, -, rfl⟩ := List.mem_map.mp hoperand
  exact ⟨_, rfl⟩

/-- Two shown conditions with something behind them are the same only when the conditions are, and
what is behind them. -/
theorem displayChars_cancel (hc : c.IsDenoted) (hd : d.IsDenoted) (hrest : Ends rest)
    (hmore : Ends more) (h : c.displayChars ++ rest = d.displayChars ++ more) :
    c = d ∧ rest = more := by
  induction c generalizing d rest more with
  | literal v =>
    obtain ⟨hopening, hbody⟩ := opening_cancel h
    cases d with
    | literal w => exact (compactChars_cancel hrest hmore hbody).imp_left (congrArg literal)
    | unrecognized w =>
      exact absurd (compactChars_cancel hrest hmore hbody).1 (hc.literal_ne_unrecognized hd)
    | compare op _ => cases op <;> simp [opening] at hopening
    | _ => simp [opening] at hopening
  | compare op bound =>
    obtain ⟨hopening, hbody⟩ := opening_cancel h
    cases d with
    | compare op' bound' =>
      obtain ⟨rfl, rfl⟩ := compactChars_cancel hrest hmore hbody
      cases op <;> cases op' <;> simp [opening] at hopening ⊢
    | _ => cases op <;> simp [opening] at hopening
  | isIn candidates =>
    obtain ⟨hopening, hbody⟩ := opening_cancel h
    cases d with
    | isIn candidates' =>
      rw [body, body, List.append_assoc, List.append_assoc] at hbody
      exact (commaListed_cancel (by decide) (ends_cons.mpr (by decide))
        (fun v => Json.close_ne_compactChars rfl v)
        (fun _ _ _ _ => compactChars_cancel) hbody).imp_left (congrArg isIn)
    | compare op _ => cases op <;> simp [opening] at hopening
    | _ => simp [opening] at hopening
  | all operands ih =>
    obtain ⟨hopening, hbody⟩ := opening_cancel h
    cases d with
    | all operands' =>
      rw [body, body, List.append_assoc, List.append_assoc] at hbody
      exact (commaListed_cancel (by decide) (ends_cons.mpr (by decide))
        (fun c => close_ne_displayChars c)
        (fun c hmem d hmem' => ih c hmem (hc.operands c hmem) (hd.operands d hmem'))
        hbody).imp_left (congrArg all)
    | compare op _ => cases op <;> simp [opening] at hopening
    | _ => simp [opening] at hopening
  | any operands ih =>
    obtain ⟨hopening, hbody⟩ := opening_cancel h
    cases d with
    | any operands' =>
      rw [body, body, List.append_assoc, List.append_assoc] at hbody
      exact (commaListed_cancel (by decide) (ends_cons.mpr (by decide))
        (fun c => close_ne_displayChars c)
        (fun c hmem d hmem' => ih c hmem (hc.operands c hmem) (hd.operands d hmem'))
        hbody).imp_left (congrArg any)
    | compare op _ => cases op <;> simp [opening] at hopening
    | _ => simp [opening] at hopening
  | unrecognized v =>
    obtain ⟨hopening, hbody⟩ := opening_cancel h
    cases d with
    | unrecognized w =>
      exact (compactChars_cancel hrest hmore hbody).imp_left (congrArg unrecognized)
    | literal w =>
      exact absurd (compactChars_cancel hrest hmore hbody).1.symm (hd.literal_ne_unrecognized hc)
    | compare op _ => cases op <;> simp [opening] at hopening
    | _ => simp [opening] at hopening
  | invalid v =>
    obtain ⟨hopening, hbody⟩ := opening_cancel h
    cases d with
    | invalid w => exact (compactChars_cancel hrest hmore hbody).imp_left (congrArg invalid)
    | compare op _ => cases op <;> simp [opening] at hopening
    | _ => simp [opening] at hopening

/-- A condition that a value denotes is shown as no other, whatever values are in it: the text tells
comparisons, memberships, connectives with their operands, and an equality with an object from one
with anything else. -/
theorem display_eq_iff (v w : Json) :
    (ofJson v).display = (ofJson w).display ↔ ofJson v = ofJson w := by
  refine ⟨fun h => ?_, congrArg display⟩
  have hchars : (ofJson v).displayChars ++ [] = (ofJson w).displayChars ++ [] := by
    rw [List.append_nil, List.append_nil]
    exact String.ofList_injective h
  exact (displayChars_cancel ⟨v, rfl⟩ ⟨w, rfl⟩ Numeral.ends_nil Numeral.ends_nil hchars).1

/-- No value denotes a literal that is an object, which would be shown as what has no operator. -/
example : (literal (.object [])).display = (unrecognized (.object [])).display :=
  rfl

end Condition
end CartCriteria
