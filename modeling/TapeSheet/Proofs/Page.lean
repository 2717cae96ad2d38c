import TapeSheet.Selector
import Mathlib.Data.List.Forall2
import Mathlib.Data.List.Induction

/-!
# Selectors on a page

Elements of a page, and what a selector with the combinators for later siblings and for descendants selects among
them. A chain of sibling combinators selects an element if elements in front of it, in the order of the chain, fit its
parts one by one (`selects_chain`).
-/

namespace TapeSheet.Page

/-! ## Elements and selectors -/

/-- An element of a page. -/
structure Element where
  name : Option String
  classes : List String
  checked : Bool
  children : List Element

/-- A condition on a single element. -/
inductive Simple
  | name (name : String)
  | cls (name : String)
  | checked (state : Bool)
  deriving DecidableEq

/-- An element meets a condition. -/
def Simple.Fits (e : Element) : Simple → Prop
  | name n => e.name = some n
  | cls n => n ∈ e.classes
  | checked state => e.checked = state

/-- Conditions that one element has to meet together. -/
abbrev Compound := List Simple

def Compound.Fits (part : Compound) (e : Element) : Prop := ∀ simple ∈ part, simple.Fits e

/-- A selector ends in the conditions on the element that it selects. -/
inductive Selector
  | only (last : Compound)
  | later (before : Selector) (last : Compound)
  | inside (around : Selector) (last : Compound)
  deriving DecidableEq

/-- An element with what stands in front of it among its siblings, and the element around them. -/
structure Spot where
  earlier : List Element
  element : Element
  around : Option Spot

/-- Strictly in front of a spot among the same siblings. -/
def Spot.Precedes (t s : Spot) : Prop := t.around = s.around ∧ ∃ between, s.earlier = t.earlier ++ t.element :: between

/-- An ancestor of a spot. -/
inductive Spot.Surrounds (t : Spot) : Spot → Prop
  | parent {s : Spot} (next : s.around = some t) : Surrounds t s
  | further {s u : Spot} (next : s.around = some u) (above : Surrounds t u) : Surrounds t s

/-- What a selector selects. -/
def Selects : Selector → Spot → Prop
  | .only last, s => last.Fits s.element
  | .later before last, s => last.Fits s.element ∧ ∃ t, t.Precedes s ∧ Selects before t
  | .inside around last, s => last.Fits s.element ∧ ∃ t, t.Surrounds s ∧ Selects around t

/-! ## Chains of siblings -/

/-- Parts joined by the combinator for later siblings. -/
def chain (last : Compound) : List Compound → Selector
  | [] => .only last
  | first :: parts => .later (parts.foldl .later (.only first)) last

theorem chain_append (last part : Compound) (parts : List Compound) :
    chain last (parts ++ [part]) = .later (chain part parts) last := by
  cases parts with
  | nil => rfl
  | cons first rest => simp [chain]

/-- Elements in front of a spot fit the parts in their order. -/
def Ahead (parts : List Compound) (earlier : List Element) : Prop := List.SublistForall₂ Compound.Fits parts earlier

theorem ahead_iff (parts : List Compound) (earlier : List Element) :
    Ahead parts earlier ↔ ∃ elements, List.Forall₂ Compound.Fits parts elements ∧ elements.Sublist earlier :=
  List.sublistForall₂_iff

/-- The last one of the parts fits an element in front, and the others fit elements in front of that one. -/
theorem ahead_append (part : Compound) (parts : List Compound) (earlier : List Element) :
    Ahead (parts ++ [part]) earlier ↔
      ∃ front element between, earlier = front ++ element :: between ∧ part.Fits element ∧ Ahead parts front := by
  simp only [ahead_iff]
  constructor
  · rintro ⟨elements, fits, sublist⟩
    have size := fits.length_eq
    rw [List.length_append, List.length_singleton] at size
    obtain ⟨others, element, rfl⟩ : ∃ others element, elements = others ++ [element] :=
      ⟨_, _, (List.dropLast_concat_getLast (List.ne_nil_of_length_eq_add_one size.symm)).symm⟩
    obtain ⟨front, rest, rfl, othersIn, elementIn⟩ := List.append_sublist_iff.mp sublist
    obtain ⟨between, behind, rfl⟩ := List.append_of_mem (List.singleton_sublist.mp elementIn)
    have sizes : others.length = parts.length := by simpa using size.symm
    have fitsOthers := List.forall₂_take_append _ _ _ fits
    have fitsElement := List.forall₂_drop_append _ _ _ fits
    rw [sizes, List.take_left] at fitsOthers
    rw [sizes, List.drop_left, List.forall₂_cons] at fitsElement
    exact ⟨front ++ between, element, behind, by simp, fitsElement.1, others, fitsOthers,
      othersIn.trans (List.sublist_append_left ..)⟩
  · rintro ⟨front, element, between, rfl, fits, elements, fitsOthers, sublist⟩
    refine ⟨elements ++ [element], List.rel_append fitsOthers (.cons fits .nil), sublist.append ?_⟩
    exact List.singleton_sublist.mpr (by simp)

/-- What precedes an element stands in the list of what is in front of it. -/
theorem exists_precedes (s : Spot) (P : Spot → Prop) :
    (∃ t, t.Precedes s ∧ P t) ↔
      ∃ front element between, s.earlier = front ++ element :: between ∧ P ⟨front, element, s.around⟩ := by
  constructor
  · rintro ⟨⟨front, element, around⟩, ⟨rfl, between, split⟩, holds⟩
    exact ⟨front, element, between, split, holds⟩
  · rintro ⟨front, element, between, split, holds⟩
    exact ⟨⟨front, element, s.around⟩, ⟨rfl, between, split⟩, holds⟩

/-- A chain selects an element that fits its end if the parts fit elements in front of it, in their order. -/
theorem selects_chain (last : Compound) (parts : List Compound) (s : Spot) :
    Selects (chain last parts) s ↔ last.Fits s.element ∧ Ahead parts s.earlier := by
  induction parts using List.reverseRecOn generalizing last s with
  | nil =>
    rw [chain, Selects]
    exact (and_iff_left .nil).symm
  | append_singleton parts part ih =>
    rw [chain_append, Selects, exists_precedes, ahead_append]
    simp only [ih]

end TapeSheet.Page
