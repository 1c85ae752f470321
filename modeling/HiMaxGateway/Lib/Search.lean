import HiMaxGateway.Lib.CText

/-! Where a key occurs in a text that is put together from parts. -/
namespace CText

variable {key a b : Text} {c : Char}

theorem not_infix_of_mem (mem : c ∈ key) (absent : c ∉ a) : ¬ key <:+: a :=
  fun within => absent (within.subset mem)

/-- A character the key lacks separates the text. -/
theorem infix_split (absent : c ∉ key) :
    key <:+: a ++ c :: b ↔ key <:+: a ∨ key <:+: b := by
  constructor
  · induction a with
    | nil =>
      intro within
      rcases List.infix_cons_iff.mp within with start | later
      · cases key with
        | nil => exact .inl List.nil_infix
        | cons k ks =>
          obtain ⟨rfl, -⟩ := List.cons_prefix_cons.mp start
          simp at absent
      · exact .inr later
    | cons x a ih =>
      intro within
      rcases List.infix_cons_iff.mp within with start | later
      · by_cases short : key.length ≤ (x :: a).length
        · exact .inl (List.prefix_of_prefix_length_le start
            (List.prefix_append (x :: a) (c :: b)) short).isInfix
        · have beyond := List.prefix_of_prefix_length_le
            (⟨b, by simp⟩ : (x :: a) ++ [c] <+: x :: (a ++ c :: b)) start
              (by simp at short ⊢; omega)
          exact absurd (beyond.subset (by simp)) absent
      · rcases ih later with before | after
        · exact .inl (before.trans (List.suffix_cons x a).isInfix)
        · exact .inr after
  · rintro (before | after)
    · exact before.trans (List.prefix_append a _).isInfix
    · exact after.trans ((List.suffix_cons c b).isInfix.trans (List.suffix_append a _).isInfix)

/-- A key that starts with a character it has nowhere else. -/
theorem infix_split_head {rest : Text} (once : c ∉ rest) (within : c :: rest <:+: a ++ c :: b) :
    c :: rest <:+: a ∨ rest <+: b ∨ c :: rest <:+: b := by
  induction a with
  | nil =>
    rcases List.infix_cons_iff.mp within with start | later
    · exact .inr (.inl (List.cons_prefix_cons.mp start).2)
    · exact .inr (.inr later)
  | cons x a ih =>
    rcases List.infix_cons_iff.mp within with start | later
    · by_cases short : (c :: rest).length ≤ (x :: a).length
      · exact .inl (List.prefix_of_prefix_length_le start
          (List.prefix_append (x :: a) (c :: b)) short).isInfix
      · have beyond := List.prefix_of_prefix_length_le
          (⟨b, by simp⟩ : (x :: a) ++ [c] <+: x :: (a ++ c :: b)) start (by simp at short ⊢; omega)
        have inner := (List.cons_prefix_cons.mp beyond).2
        exact absurd (inner.subset (by simp)) once
    · rcases ih later with before | after
      · exact .inl (before.trans (List.suffix_cons x a).isInfix)
      · exact .inr after

/-- Nothing starts inside a part without the first character of the key. -/
theorem infix_skip {rest : Text} (absent : c ∉ a) (within : c :: rest <:+: a ++ b) :
    c :: rest <:+: b := by
  induction a with
  | nil => exact within
  | cons x a ih =>
    simp only [List.mem_cons, not_or] at absent
    rcases List.infix_cons_iff.mp within with start | later
    · exact absurd (List.cons_prefix_cons.mp start).1 absent.1
    · exact ih absent.2 later

section

variable {stem : Text} {x : Char} (before : ¬ stem <:+: ((x :: a) ++ stem).dropLast)

include before

theorem not_prefix_earlier (b : Text) : ¬ stem <+: x :: (a ++ (stem ++ b)) := by
  intro found
  have whole : stem <+: (x :: a) ++ stem ++ b := by simpa using found
  have front : ((x :: a) ++ stem).dropLast <+: (x :: a) ++ stem ++ b :=
    (List.dropLast_prefix _).trans (List.prefix_append _ _)
  exact before (List.prefix_of_prefix_length_le whole front (by simp)).isInfix

theorem not_infix_inner (nonempty : stem ≠ []) : ¬ stem <:+: (a ++ stem).dropLast := by
  intro within
  apply before
  rw [List.cons_append, List.dropLast_cons_of_ne_nil (by simp [nonempty])]
  exact within.trans (List.suffix_cons _ _).isInfix

end

/-- The first occurrence, when the key does not occur earlier. -/
theorem strstr_first (nonempty : key ≠ []) (before : ¬ key <:+: (a ++ key).dropLast) (b : Text) :
    strstr key (a ++ (key ++ b)) = some a.length := by
  induction a with
  | nil =>
    cases key with
    | nil => contradiction
    | cons k key => simp [strstr]
  | cons x a ih =>
    have here : key.isPrefixOf (x :: (a ++ (key ++ b))) = false := by
      rw [Bool.eq_false_iff, ne_eq, List.isPrefixOf_iff_prefix]
      exact not_prefix_earlier before b
    rw [List.cons_append, strstr, here, ih (not_infix_inner before nonempty)]
    simp

/-- Nothing is found in a part without the first character of the key. -/
theorem strstr_skip {rest : Text} (absent : c ∉ a) (b : Text) :
    strstr (c :: rest) (a ++ b) = (strstr (c :: rest) b).map (· + a.length) := by
  induction a with
  | nil => simp
  | cons x a ih =>
    simp only [List.mem_cons, not_or] at absent
    have here : (c :: rest).isPrefixOf (x :: (a ++ b)) = false := by
      simp [List.isPrefixOf, absent.1]
    rw [List.cons_append, strstr, here, ih absent.2]
    cases strstr (c :: rest) b <;> simp [Nat.add_assoc]

/-- What follows an occurrence does not matter. -/
theorem strstr_append (found : strstr key a = some i) (b : Text) :
    strstr key (a ++ b) = some i := by
  induction a generalizing i with
  | nil =>
    simp only [strstr, Option.ite_none_right_eq_some] at found
    obtain ⟨empty, found⟩ := found
    cases List.isEmpty_iff.mp empty
    cases b <;> simpa [strstr] using found
  | cons x a ih =>
    rw [strstr] at found
    rw [List.cons_append, strstr]
    by_cases here : key.isPrefixOf (x :: a) = true
    · rw [if_pos here] at found
      have longer : key.isPrefixOf (x :: (a ++ b)) = true := by
        rw [List.isPrefixOf_iff_prefix] at here ⊢
        exact here.trans (List.prefix_append (x :: a) b)
      rw [if_pos longer, found]
    · rw [if_neg here, Option.map_eq_some_iff] at found
      obtain ⟨j, later, rfl⟩ := found
      -- The key fits into the part, so it would start here without the rest too.
      have fits : key.length ≤ a.length :=
        ((strstr_spec later).isInfix.trans (List.drop_suffix j a).isInfix).length_le
      have none : ¬ key.isPrefixOf (x :: (a ++ b)) = true := by
        intro start
        rw [List.isPrefixOf_iff_prefix] at here start
        exact here (List.prefix_of_prefix_length_le start (List.prefix_append (x :: a) b)
          (Nat.le_succ_of_le fits))
      rw [if_neg none, ih later]
      rfl

/-- All keys that start with the stem are found where the stem occurs, or nowhere. -/
theorem strstr_stem {stem : Text} (nonempty : stem ≠ []) (start : stem <+: key)
    (before : ¬ stem <:+: (a ++ stem).dropLast) (after : ¬ stem <:+: (stem ++ b).tail) :
    strstr key (a ++ (stem ++ b)) =
      if key.isPrefixOf (stem ++ b) then some a.length else none := by
  induction a with
  | nil =>
    cases stem with
    | nil => contradiction
    | cons s stem =>
      have nowhere : strstr key (stem ++ b) = none := by
        rw [strstr_eq_none]
        exact fun within => after (start.isInfix.trans within)
      simp [strstr, nowhere]
  | cons x a ih =>
    have here : key.isPrefixOf (x :: (a ++ (stem ++ b))) = false := by
      rw [Bool.eq_false_iff, ne_eq, List.isPrefixOf_iff_prefix]
      exact fun found => not_prefix_earlier before b (start.trans found)
    rw [List.cons_append, strstr, here, ih (not_infix_inner before nonempty)]
    by_cases found : key.isPrefixOf (stem ++ b) <;> simp [found]

end CText
