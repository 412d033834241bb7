import Mathlib.Data.List.Basic
import Mathlib.Data.List.Infix
import Mathlib.Logic.Function.Basic

/-!
# Pipelines

Items are numbered as they are sent.  Until it has been dealt with, each of them is at
one of several places, behind those that came there before it, and it goes from place
to place, down one rank at a time.  As long as none is lost and of the places of one
rank only one is in use, what has been dealt with is the beginning of what was sent.
-/

namespace CallsPlugin.Verified

universe u v

/-- An item and its number. -/
structure Numbered (α : Type u) where
  no : Nat
  item : α
  deriving DecidableEq

/-- The items of a list with their numbers. -/
def numbered {α : Type u} (all : List α) : List (Numbered α) := all.mapIdx Numbered.mk

section Lists

variable {α : Type u} {all : List α}

@[simp] theorem length_numbered : (numbered all).length = all.length :=
  List.length_mapIdx

theorem numbered_concat (a : α) :
    numbered (all ++ [a]) = numbered all ++ [⟨all.length, a⟩] :=
  List.mapIdx_concat

theorem getElem?_numbered (no : Nat) :
    (numbered all)[no]? = all[no]?.map (Numbered.mk no) :=
  List.getElem?_mapIdx

theorem mem_numbered {x : Numbered α} :
    x ∈ numbered all ↔ all[x.no]? = some x.item := by
  rw [List.mem_iff_getElem?]
  constructor
  · rintro ⟨no, hno⟩
    rw [getElem?_numbered, Option.map_eq_some_iff] at hno
    obtain ⟨item, hitem, rfl⟩ := hno
    exact hitem
  · intro hx
    refine ⟨x.no, ?_⟩
    rw [getElem?_numbered, hx]
    rfl

theorem items_numbered : (numbered all).map Numbered.item = all := by
  refine List.ext_getElem? fun no => ?_
  rw [List.getElem?_map, getElem?_numbered, Option.map_map]
  exact congrFun Option.map_id _

theorem pairwise_numbered : (numbered all).Pairwise fun x y => x.no < y.no := by
  rw [List.pairwise_iff_getElem]
  intro i j hi hj hij
  simpa [numbered] using hij

end Lists

variable {P : Type v} {α : Type u}

/-- What is held at the places, and what has been dealt with, of the items sent. -/
structure Pipeline (rank : P → Nat) (all : List α) (held : P → List (Numbered α))
    (done : List (Numbered α)) : Prop where
  inOrder : done <+: numbered all
  sent : ∀ p, ∀ x ∈ held p, x ∈ numbered all
  later : ∀ p, ∀ x ∈ held p, done.length ≤ x.no
  kept : ∀ no, done.length ≤ no → no < all.length → ∃ p, ∃ x ∈ held p, x.no = no
  sorted : ∀ p, (held p).Pairwise fun x y => x.no < y.no
  line : ∀ p q, ∀ x ∈ held p, ∀ y ∈ held q, rank p < rank q → x.no < y.no
  single : ∀ p q, ∀ x ∈ held p, ∀ y ∈ held q, rank p = rank q → p = q

namespace Pipeline

variable {rank : P → Nat} {all : List α} {held : P → List (Numbered α)}
  {done : List (Numbered α)} {p q : P} {x y : Numbered α} {rest : List (Numbered α)}

/-- Nothing has been sent. -/
theorem start (h : ∀ p, held p = []) : Pipeline rank [] held [] := by
  have hnone : ∀ p, ∀ x, x ∉ held p := by
    intro p x hx
    rw [h p] at hx
    cases hx
  constructor
  case inOrder => exact List.prefix_rfl
  case sent => exact fun p x hx => absurd hx (hnone p x)
  case later => exact fun p x hx => absurd hx (hnone p x)
  case kept => exact fun no _ hno => absurd hno (Nat.not_lt_zero no)
  case sorted =>
    intro p
    rw [h p]
    exact List.Pairwise.nil
  case line => exact fun p q x hx => absurd hx (hnone p x)
  case single => exact fun p q x hx => absurd hx (hnone p x)

theorem lt_length (h : Pipeline rank all held done) (hx : x ∈ held p) :
    x.no < all.length :=
  (List.getElem?_eq_some_iff.1 (mem_numbered.1 (h.sent p x hx))).1

/-- An item is at one place. -/
theorem apart (h : Pipeline rank all held done) (hx : x ∈ held p) (hy : y ∈ held q)
    (hno : x.no = y.no) : p = q := by
  obtain hlt | heq | hgt := Nat.lt_trichotomy (rank p) (rank q)
  · exact absurd hno (Nat.ne_of_lt (h.line p q x hx y hy hlt))
  · exact h.single p q x hx y hy heq
  · exact absurd hno.symm (Nat.ne_of_lt (h.line q p y hy x hx hgt))

/-- The first item at the last place is the oldest one. -/
theorem oldest (h : Pipeline rank all held done) (hp : held p = x :: rest)
    (hrank : rank p = 0) (hy : y ∈ held q) : x.no ≤ y.no := by
  have hx : x ∈ held p := by
    rw [hp]
    exact List.mem_cons_self
  obtain hq | hq := Nat.eq_zero_or_pos (rank q)
  · obtain rfl := h.single p q x hx y hy (hrank.trans hq.symm)
    have hsorted := h.sorted p
    rw [hp, List.pairwise_cons] at hsorted
    rw [hp] at hy
    obtain rfl | hy := List.mem_cons.1 hy
    · exact Nat.le_refl _
    · exact Nat.le_of_lt (hsorted.1 y hy)
  · refine Nat.le_of_lt (h.line p q x hx y hy ?_)
    rw [hrank]
    exact hq

/-- And it is the next one. -/
theorem no_of_oldest (h : Pipeline rank all held done) (hx : x ∈ held p)
    (hfirst : ∀ q, ∀ y ∈ held q, x.no ≤ y.no) : x.no = done.length := by
  have hlater := h.later p x hx
  have hlt := h.lt_length hx
  obtain ⟨q, y, hy, hyno⟩ :=
    h.kept done.length (Nat.le_refl _) (Nat.lt_of_le_of_lt hlater hlt)
  have hle := hfirst q y hy
  omega

/-- Once nothing is on its way, everything has been dealt with. -/
theorem complete (h : Pipeline rank all held done) (hempty : ∀ p, held p = []) :
    done = numbered all := by
  refine h.inOrder.eq_of_length_le ?_
  rw [length_numbered]
  refine Nat.le_of_not_lt fun hlt => ?_
  obtain ⟨p, x, hx, -⟩ := h.kept done.length (Nat.le_refl _) hlt
  rw [hempty p] at hx
  cases hx

end Pipeline

/-! ## From place to place -/

section Places

variable [DecidableEq P] {held : P → List (Numbered α)} {p q : P} {x y : Numbered α}
  {rest : List (Numbered α)}

/-- An item comes to a place. -/
def arrive (held : P → List (Numbered α)) (p : P) (x : Numbered α) :
    P → List (Numbered α) :=
  Function.update held p (held p ++ [x])

/-- The first item leaves a place. -/
def depart (held : P → List (Numbered α)) (p : P) : P → List (Numbered α) :=
  Function.update held p (held p).tail

theorem arrive_self (held : P → List (Numbered α)) (p : P) (x : Numbered α) :
    arrive held p x p = held p ++ [x] := Function.update_self ..

theorem arrive_of_ne (h : q ≠ p) : arrive held p x q = held q :=
  Function.update_of_ne h ..

theorem depart_self (h : held p = x :: rest) : depart held p p = rest := by
  rw [depart, Function.update_self, h, List.tail_cons]

theorem depart_of_ne (h : q ≠ p) : depart held p q = held q :=
  Function.update_of_ne h ..

/-- Moving an item concerns two places. -/
theorem arrive_depart_of_ne {r : P} (hp : r ≠ p) (hq : r ≠ q) :
    arrive (depart held p) q x r = held r := by
  rw [arrive_of_ne hq, depart_of_ne hp]

theorem mem_arrive : y ∈ arrive held p x q ↔ y ∈ held q ∨ q = p ∧ y = x := by
  by_cases h : q = p
  · subst h
    simp [arrive_self]
  · simp [arrive_of_ne h, h]

/-- A place stays in order when an item comes that is younger than those there. -/
theorem sorted_arrive (hsorted : ∀ q, (held q).Pairwise fun x y => x.no < y.no)
    (hlast : ∀ y ∈ held p, y.no < x.no) (q : P) :
    (arrive held p x q).Pairwise fun x y => x.no < y.no := by
  by_cases hq : q = p
  · subst hq
    rw [arrive_self, List.pairwise_append]
    refine ⟨hsorted q, List.pairwise_singleton _ _, fun y hy z hz => ?_⟩
    rw [List.mem_singleton.1 hz]
    exact hlast y hy
  · rw [arrive_of_ne hq]
    exact hsorted q

theorem sorted_depart
    (hsorted : ∀ q, (held q).Pairwise fun x y => x.no < y.no) (q : P) :
    (depart held p q).Pairwise fun x y => x.no < y.no := by
  by_cases hq : q = p
  · subst hq
    rw [depart, Function.update_self]
    exact (hsorted q).sublist (List.tail_sublist _)
  · rw [depart_of_ne hq]
    exact hsorted q

end Places

namespace Pipeline

variable [DecidableEq P] {rank : P → Nat} {all : List α} {held : P → List (Numbered α)}
  {done : List (Numbered α)} {p q : P} {x y : Numbered α} {rest : List (Numbered α)}

/-- Everything but the first item of the place is where it was. -/
theorem mem_depart (h : Pipeline rank all held done) (hp : held p = x :: rest) :
    y ∈ depart held p q ↔ y ∈ held q ∧ y.no ≠ x.no := by
  have hx : x ∈ held p := by
    rw [hp]
    exact List.mem_cons_self
  by_cases hq : q = p
  · subst hq
    have hsorted := h.sorted q
    rw [hp, List.pairwise_cons] at hsorted
    rw [depart_self hp, hp, List.mem_cons]
    constructor
    · exact fun hy => ⟨.inr hy, Nat.ne_of_gt (hsorted.1 y hy)⟩
    · rintro ⟨heq | hy, hno⟩
      · exact absurd (congrArg Numbered.no heq) hno
      · exact hy
  · rw [depart_of_ne hq]
    exact ⟨fun hy => ⟨hy, fun hno => hq (h.apart hy hx hno)⟩, And.left⟩

/-- An item is sent, to a place of the highest rank in use. -/
theorem post (h : Pipeline rank all held done) (a : α)
    (hlast : ∀ q, ∀ y ∈ held q, q = p ∨ rank q < rank p) :
    Pipeline rank (all ++ [a]) (arrive held p ⟨all.length, a⟩) done := by
  have hprefix : numbered all <+: numbered (all ++ [a]) := by
    rw [numbered_concat]
    exact List.prefix_append _ _
  constructor
  case inOrder => exact h.inOrder.trans hprefix
  case sent =>
    intro q y hy
    obtain hy | ⟨-, rfl⟩ := mem_arrive.1 hy
    · exact hprefix.subset (h.sent q y hy)
    · rw [numbered_concat]
      exact List.mem_append_right _ List.mem_cons_self
  case later =>
    intro q y hy
    obtain hy | ⟨-, rfl⟩ := mem_arrive.1 hy
    · exact h.later q y hy
    · have hle := h.inOrder.length_le
      rw [length_numbered] at hle
      exact hle
  case kept =>
    intro no hdone hno
    rw [List.length_append, List.length_singleton, Nat.lt_succ_iff_lt_or_eq] at hno
    obtain hno | hno := hno
    · obtain ⟨q, y, hy, hyno⟩ := h.kept no hdone hno
      exact ⟨q, y, mem_arrive.2 (.inl hy), hyno⟩
    · exact ⟨p, _, mem_arrive.2 (.inr ⟨rfl, rfl⟩), hno.symm⟩
  case sorted => exact sorted_arrive h.sorted fun y hy => h.lt_length hy
  case line =>
    intro q q' y hy y' hy' hlt
    obtain hy | ⟨rfl, rfl⟩ := mem_arrive.1 hy
    · obtain hy' | ⟨-, rfl⟩ := mem_arrive.1 hy'
      · exact h.line q q' y hy y' hy' hlt
      · exact h.lt_length hy
    · obtain hy' | ⟨rfl, -⟩ := mem_arrive.1 hy'
      · obtain rfl | hgt := hlast q' y' hy'
        · exact absurd hlt (Nat.lt_irrefl _)
        · exact absurd hlt (Nat.lt_asymm hgt)
      · exact absurd hlt (Nat.lt_irrefl _)
  case single =>
    intro q q' y hy y' hy' heq
    obtain hold | ⟨rfl, -⟩ := mem_arrive.1 hy
    · obtain hold' | ⟨rfl, -⟩ := mem_arrive.1 hy'
      · exact h.single q q' y hold y' hold' heq
      · exact (hlast q y hold).resolve_right (Nat.not_lt_of_le (Nat.le_of_eq heq.symm))
    · obtain hold' | ⟨rfl, -⟩ := mem_arrive.1 hy'
      · exact ((hlast q' y' hold').resolve_right
          (Nat.not_lt_of_le (Nat.le_of_eq heq))).symm
      · rfl

/-- The first item of a place goes on to a place of the next rank, of which no other is
in use. -/
theorem move (h : Pipeline rank all held done) (hp : held p = x :: rest)
    (hrank : rank p = rank q + 1)
    (hfree : ∀ q', ∀ y ∈ held q', rank q' = rank q → q' = q) :
    Pipeline rank all (arrive (depart held p) q x) done := by
  have hx : x ∈ held p := by
    rw [hp]
    exact List.mem_cons_self
  have hmem : ∀ {q' y}, y ∈ arrive (depart held p) q x q' ↔
      (y ∈ held q' ∧ y.no ≠ x.no) ∨ q' = q ∧ y = x := by
    intro q' y
    rw [mem_arrive, h.mem_depart hp]
  -- what stays where it was is older than `x` at the lower ranks, and younger at the
  -- higher ones
  have hbelow : ∀ {q' y}, y ∈ held q' → rank q' ≤ rank q → y.no < x.no :=
    fun hy hle => h.line _ p _ hy x hx (by omega)
  have habove : ∀ {q' y}, y ∈ held q' → y.no ≠ x.no → rank q < rank q' →
      x.no < y.no := by
    intro q' y hy hne hlt
    obtain heq | hgt := Nat.eq_or_lt_of_le (show rank p ≤ rank q' by omega)
    · obtain rfl := h.single p q' x hx y hy heq
      have hsorted := h.sorted p
      rw [hp, List.pairwise_cons] at hsorted
      rw [hp] at hy
      obtain rfl | hy := List.mem_cons.1 hy
      · exact absurd rfl hne
      · exact hsorted.1 y hy
    · exact h.line p q' x hx y hy hgt
  constructor
  case inOrder => exact h.inOrder
  case sent =>
    intro q' y hy
    obtain ⟨hy, -⟩ | ⟨-, rfl⟩ := hmem.1 hy
    · exact h.sent q' y hy
    · exact h.sent p _ hx
  case later =>
    intro q' y hy
    obtain ⟨hy, -⟩ | ⟨-, rfl⟩ := hmem.1 hy
    · exact h.later q' y hy
    · exact h.later p _ hx
  case kept =>
    intro no hdone hno
    obtain ⟨q', y, hy, hyno⟩ := h.kept no hdone hno
    by_cases heq : y.no = x.no
    · exact ⟨q, x, hmem.2 (.inr ⟨rfl, rfl⟩), heq ▸ hyno⟩
    · exact ⟨q', y, hmem.2 (.inl ⟨hy, heq⟩), hyno⟩
  case sorted =>
    exact sorted_arrive (sorted_depart h.sorted) fun y hy =>
      hbelow ((h.mem_depart hp).1 hy).1 (Nat.le_refl _)
  case line =>
    intro q₁ q₂ y hy y' hy' hlt
    obtain ⟨hold, -⟩ | ⟨rfl, rfl⟩ := hmem.1 hy
    · obtain ⟨hold', -⟩ | ⟨rfl, rfl⟩ := hmem.1 hy'
      · exact h.line q₁ q₂ y hold y' hold' hlt
      · exact hbelow hold (Nat.le_of_lt hlt)
    · obtain ⟨hold', hne⟩ | ⟨rfl, -⟩ := hmem.1 hy'
      · exact habove hold' hne hlt
      · exact absurd hlt (Nat.lt_irrefl _)
  case single =>
    intro q₁ q₂ y hy y' hy' heq
    obtain ⟨hold, -⟩ | ⟨rfl, -⟩ := hmem.1 hy
    · obtain ⟨hold', -⟩ | ⟨rfl, -⟩ := hmem.1 hy'
      · exact h.single q₁ q₂ y hold y' hold' heq
      · exact hfree q₁ y hold heq
    · obtain ⟨hold', -⟩ | ⟨rfl, -⟩ := hmem.1 hy'
      · exact (hfree q₂ y' hold' heq.symm).symm
      · rfl

/-- The first item at the last place is dealt with. -/
theorem finish (h : Pipeline rank all held done) (hp : held p = x :: rest)
    (hrank : rank p = 0) :
    Pipeline rank all (depart held p) (done ++ [x]) := by
  have hx : x ∈ held p := by
    rw [hp]
    exact List.mem_cons_self
  have hfirst : ∀ q, ∀ y ∈ held q, x.no ≤ y.no := fun q y hy => h.oldest hp hrank hy
  have hnext := h.no_of_oldest hx hfirst
  have hlen : (done ++ [x]).length = done.length + 1 := by simp
  constructor
  case inOrder =>
    have hget : (numbered all)[done.length]? = some x := by
      rw [← hnext, getElem?_numbered, mem_numbered.1 (h.sent p x hx)]
      rfl
    have hdone := List.prefix_iff_eq_take.1 h.inOrder
    rw [List.prefix_iff_eq_take, hlen, List.take_add_one, ← hdone, hget]
    rfl
  case sent => exact fun q y hy => h.sent q y ((h.mem_depart hp).1 hy).1
  case later =>
    intro q y hy
    obtain ⟨hy, hne⟩ := (h.mem_depart hp).1 hy
    have hle := h.later q y hy
    omega
  case kept =>
    intro no hdone hno
    rw [hlen] at hdone
    obtain ⟨q, y, hy, hyno⟩ := h.kept no (Nat.le_of_succ_le hdone) hno
    exact ⟨q, y, (h.mem_depart hp).2 ⟨hy, by omega⟩, hyno⟩
  case sorted => exact sorted_depart h.sorted
  case line =>
    intro q₁ q₂ y hy y' hy'
    exact h.line q₁ q₂ y ((h.mem_depart hp).1 hy).1 y' ((h.mem_depart hp).1 hy').1
  case single =>
    intro q₁ q₂ y hy y' hy'
    exact h.single q₁ q₂ y ((h.mem_depart hp).1 hy).1 y' ((h.mem_depart hp).1 hy').1

end Pipeline

end CallsPlugin.Verified
