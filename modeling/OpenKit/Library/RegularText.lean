import Mathlib.Computability.RegularExpressions

/-!
# Regular expressions as they are written

Written patterns have classes of symbols, literal texts, optional parts and numbers of repetitions. Each
of them is a regular expression, whose language is that of the words one expects.

## Main definitions

* `oneOf`, `literal`: a class of symbols, and a text
* `optional`, `oneOrMore`, `between`: the quantifiers

## Main results

* `mem_between_oneOf`: the words over a class of symbols, between two lengths
* `mem_separated`, `mem_pow_terminated` and so on: lists whose elements are separated or terminated
-/

namespace RegularExpression

variable {α : Type*} {r s : RegularExpression α} {symbols w : List α}

/-! ## Classes and texts -/

/-- One of some symbols. -/
def oneOf (symbols : List α) : RegularExpression α := symbols.foldr (fun a r => char a + r) 0

/-- The symbols of a text, one after the other. -/
def literal (text : List α) : RegularExpression α := text.foldr (fun a r => char a * r) 1

theorem mem_oneOf : w ∈ (oneOf symbols).matches' ↔ ∃ a ∈ symbols, w = [a] := by
  induction symbols with
  | nil => simp [oneOf, Language.notMem_zero]
  | cons a symbols ih =>
    have hcons : (oneOf (a :: symbols)).matches' = (char a).matches' + (oneOf symbols).matches' := rfl
    rw [hcons, Language.mem_add, ih, List.exists_mem_cons_iff, matches'_char]
    rfl

theorem mem_literal {text : List α} : w ∈ (literal text).matches' ↔ w = text := by
  induction text generalizing w with
  | nil => exact Language.mem_one w
  | cons a text ih =>
    have hcons : (literal (a :: text)).matches' = (char a).matches' * (literal text).matches' := rfl
    rw [hcons, Language.mem_mul]
    constructor
    · rintro ⟨u, rfl, v, hv, rfl⟩
      rw [ih.mp hv]
      rfl
    · rintro rfl
      exact ⟨[a], rfl, text, ih.mpr rfl, rfl⟩

/-! ## Sequences and alternatives -/

theorem mem_mul : w ∈ (r * s).matches' ↔ ∃ u ∈ r.matches', ∃ v ∈ s.matches', u ++ v = w :=
  Language.mem_mul

theorem mem_add : w ∈ (r + s).matches' ↔ w ∈ r.matches' ∨ w ∈ s.matches' := Language.mem_add _ _ _

/-- A text in front. -/
theorem mem_literal_mul {text : List α} :
    w ∈ (literal text * r).matches' ↔ ∃ v ∈ r.matches', w = text ++ v := by
  rw [mem_mul]
  constructor
  · rintro ⟨u, hu, v, hv, rfl⟩
    exact ⟨v, hv, by rw [mem_literal.mp hu]⟩
  · rintro ⟨v, hv, rfl⟩
    exact ⟨text, mem_literal.mpr rfl, v, hv, rfl⟩

/-- A text behind. -/
theorem mem_mul_literal {text : List α} :
    w ∈ (r * literal text).matches' ↔ ∃ u ∈ r.matches', w = u ++ text := by
  rw [mem_mul]
  constructor
  · rintro ⟨u, hu, v, hv, rfl⟩
    exact ⟨u, hu, by rw [mem_literal.mp hv]⟩
  · rintro ⟨u, hu, rfl⟩
    exact ⟨u, hu, text, mem_literal.mpr rfl, rfl⟩

/-! ## Quantifiers -/

/-- `r?` -/
def optional (r : RegularExpression α) : RegularExpression α := 1 + r

/-- `r+` -/
def oneOrMore (r : RegularExpression α) : RegularExpression α := r * r.star

/-- `r{m,n}` -/
def between (m n : ℕ) (r : RegularExpression α) : RegularExpression α := r ^ m * optional r ^ (n - m)

theorem mem_optional : w ∈ (optional r).matches' ↔ w = [] ∨ w ∈ r.matches' := by
  rw [optional, mem_add, matches'_epsilon, Language.mem_one]

theorem mem_pow_zero : w ∈ (r ^ 0).matches' ↔ w = [] := by
  rw [matches'_pow, pow_zero, Language.mem_one]

/-- One repetition after the other. -/
theorem mem_pow_succ {n : ℕ} :
    w ∈ (r ^ (n + 1)).matches' ↔ ∃ u ∈ r.matches', ∃ v ∈ (r ^ n).matches', u ++ v = w := by
  rw [matches'_pow, pow_succ', Language.mem_mul, matches'_pow]

theorem mem_star_iff :
    w ∈ r.star.matches' ↔ ∃ us : List (List α), w = us.flatten ∧ ∀ u ∈ us, u ∈ r.matches' := by
  rw [matches'_star, Language.mem_kstar]

theorem mem_pow_iff {n : ℕ} : w ∈ (r ^ n).matches' ↔
    ∃ us : List (List α), us.length = n ∧ w = us.flatten ∧ ∀ u ∈ us, u ∈ r.matches' := by
  induction n generalizing w with
  | zero =>
    rw [mem_pow_zero]
    constructor
    · rintro rfl
      exact ⟨[], rfl, rfl, List.forall_mem_nil _⟩
    · rintro ⟨us, hlength, rfl, -⟩
      rw [List.length_eq_zero_iff.mp hlength]
      rfl
  | succ n ih =>
    rw [mem_pow_succ]
    constructor
    · rintro ⟨u, hu, v, hv, rfl⟩
      obtain ⟨us, rfl, rfl, hus⟩ := ih.mp hv
      exact ⟨u :: us, rfl, rfl, List.forall_mem_cons.mpr ⟨hu, hus⟩⟩
    · rintro ⟨us, hlength, rfl, hus⟩
      obtain ⟨u, us, rfl⟩ := List.exists_cons_of_length_eq_add_one hlength
      obtain ⟨hu, hus⟩ := List.forall_mem_cons.mp hus
      exact ⟨u, hu, us.flatten, ih.mpr ⟨us, Nat.succ.inj hlength, rfl, hus⟩, rfl⟩

/-! ## Words over a class -/

/-- What is made of single symbols is a word over them. -/
theorem flatten_of_forall_mem_oneOf {us : List (List α)} (h : ∀ u ∈ us, u ∈ (oneOf symbols).matches') :
    us.flatten.length = us.length ∧ ∀ a ∈ us.flatten, a ∈ symbols := by
  induction us with
  | nil => exact ⟨rfl, List.forall_mem_nil _⟩
  | cons u us ih =>
    obtain ⟨hu, hus⟩ := List.forall_mem_cons.mp h
    obtain ⟨a, ha, rfl⟩ := mem_oneOf.mp hu
    obtain ⟨hlength, hall⟩ := ih hus
    exact ⟨congrArg Nat.succ hlength, List.forall_mem_cons.mpr ⟨ha, hall⟩⟩

/-- A word is made of its symbols. -/
theorem exists_flatten_oneOf (h : ∀ a ∈ w, a ∈ symbols) :
    (w.map fun a => [a]).flatten = w ∧ ∀ u ∈ w.map fun a => [a], u ∈ (oneOf symbols).matches' := by
  refine ⟨?_, fun u hu => ?_⟩
  · rw [← List.flatMap_def, List.flatMap_singleton']
  · obtain ⟨a, ha, rfl⟩ := List.mem_map.mp hu
    exact mem_oneOf.mpr ⟨a, h a ha, rfl⟩

theorem mem_pow_oneOf {n : ℕ} :
    w ∈ (oneOf symbols ^ n).matches' ↔ w.length = n ∧ ∀ a ∈ w, a ∈ symbols := by
  rw [mem_pow_iff]
  constructor
  · rintro ⟨us, hlength, rfl, hus⟩
    obtain ⟨hflatten, hall⟩ := flatten_of_forall_mem_oneOf hus
    exact ⟨hflatten.trans hlength, hall⟩
  · rintro ⟨hlength, h⟩
    obtain ⟨hflatten, hall⟩ := exists_flatten_oneOf h
    exact ⟨_, (List.length_map _).trans hlength, hflatten.symm, hall⟩

/-- Some optional symbols are at most so many. -/
theorem mem_optional_pow_oneOf {n : ℕ} :
    w ∈ (optional (oneOf symbols) ^ n).matches' ↔ w.length ≤ n ∧ ∀ a ∈ w, a ∈ symbols := by
  induction n generalizing w with
  | zero =>
    rw [mem_pow_zero, Nat.le_zero, List.length_eq_zero_iff]
    exact ⟨fun h => ⟨h, h ▸ List.forall_mem_nil _⟩, And.left⟩
  | succ n ih =>
    rw [mem_pow_succ]
    constructor
    · rintro ⟨u, hu, v, hv, rfl⟩
      obtain ⟨hlength, hall⟩ := ih.mp hv
      rcases mem_optional.mp hu with rfl | hu
      · exact ⟨Nat.le_succ_of_le hlength, hall⟩
      · obtain ⟨a, ha, rfl⟩ := mem_oneOf.mp hu
        exact ⟨Nat.succ_le_succ hlength, List.forall_mem_cons.mpr ⟨ha, hall⟩⟩
    · rintro ⟨hlength, hall⟩
      cases w with
      | nil => exact ⟨[], mem_optional.mpr (.inl rfl), [], ih.mpr ⟨Nat.zero_le n, hall⟩, rfl⟩
      | cons a v =>
        obtain ⟨ha, hv⟩ := List.forall_mem_cons.mp hall
        exact ⟨[a], mem_optional.mpr (.inr (mem_oneOf.mpr ⟨a, ha, rfl⟩)), v,
          ih.mpr ⟨Nat.le_of_succ_le_succ hlength, hv⟩, rfl⟩

/-- **A bounded number** of symbols. -/
theorem mem_between_oneOf {m n : ℕ} (hmn : m ≤ n) :
    w ∈ (between m n (oneOf symbols)).matches' ↔
      m ≤ w.length ∧ w.length ≤ n ∧ ∀ a ∈ w, a ∈ symbols := by
  rw [between, mem_mul]
  constructor
  · rintro ⟨u, hu, v, hv, rfl⟩
    obtain ⟨hlength, hu⟩ := mem_pow_oneOf.mp hu
    obtain ⟨hlength', hv⟩ := mem_optional_pow_oneOf.mp hv
    rw [List.length_append]
    exact ⟨by omega, by omega, List.forall_mem_append.mpr ⟨hu, hv⟩⟩
  · rintro ⟨hmin, hmax, hall⟩
    refine ⟨w.take m, mem_pow_oneOf.mpr ⟨List.length_take_of_le hmin, fun a ha => ?_⟩, w.drop m,
      mem_optional_pow_oneOf.mpr ⟨?_, fun a ha => ?_⟩, List.take_append_drop m w⟩
    · exact hall a (List.mem_of_mem_take ha)
    · rw [List.length_drop]
      omega
    · exact hall a (List.mem_of_mem_drop ha)

/-! ## Lists -/

/-- Elements in front of their terminators or separators. -/
theorem exists_map_iff {f : List α → List α}
    (h : ∀ v, v ∈ s.matches' ↔ ∃ u ∈ r.matches', v = f u) (vs : List (List α)) :
    (∀ v ∈ vs, v ∈ s.matches') ↔ ∃ us : List (List α), vs = us.map f ∧ ∀ u ∈ us, u ∈ r.matches' := by
  constructor
  · intro hvs
    induction vs with
    | nil => exact ⟨[], rfl, List.forall_mem_nil _⟩
    | cons v vs ih =>
      obtain ⟨hv, hrest⟩ := List.forall_mem_cons.mp hvs
      obtain ⟨u, hu, rfl⟩ := (h v).mp hv
      obtain ⟨us, rfl, hus⟩ := ih hrest
      exact ⟨u :: us, rfl, List.forall_mem_cons.mpr ⟨hu, hus⟩⟩
  · rintro ⟨us, rfl, hus⟩ v hv
    obtain ⟨u, hu, rfl⟩ := List.mem_map.mp hv
    exact (h _).mpr ⟨u, hus u hu, rfl⟩

theorem mem_star_map {f : List α → List α} (h : ∀ v, v ∈ s.matches' ↔ ∃ u ∈ r.matches', v = f u) :
    w ∈ s.star.matches' ↔ ∃ us : List (List α), w = us.flatMap f ∧ ∀ u ∈ us, u ∈ r.matches' := by
  rw [mem_star_iff]
  constructor
  · rintro ⟨vs, rfl, hvs⟩
    obtain ⟨us, rfl, hus⟩ := (exists_map_iff h vs).mp hvs
    exact ⟨us, rfl, hus⟩
  · rintro ⟨us, rfl, hus⟩
    exact ⟨us.map f, rfl, (exists_map_iff h _).mpr ⟨us, rfl, hus⟩⟩

theorem mem_pow_map {f : List α → List α} (h : ∀ v, v ∈ s.matches' ↔ ∃ u ∈ r.matches', v = f u) {n : ℕ} :
    w ∈ (s ^ n).matches' ↔
      ∃ us : List (List α), us.length = n ∧ w = us.flatMap f ∧ ∀ u ∈ us, u ∈ r.matches' := by
  rw [mem_pow_iff]
  constructor
  · rintro ⟨vs, hlength, rfl, hvs⟩
    obtain ⟨us, rfl, hus⟩ := (exists_map_iff h vs).mp hvs
    exact ⟨us, (List.length_map f).symm.trans hlength, rfl, hus⟩
  · rintro ⟨us, hlength, rfl, hus⟩
    exact ⟨us.map f, (List.length_map f).trans hlength, rfl, (exists_map_iff h _).mpr ⟨us, rfl, hus⟩⟩

/-- The separators stand in front of all elements but the first. -/
theorem intercalate_cons (x : α) (u : List α) (us : List (List α)) :
    [x].intercalate (u :: us) = u ++ us.flatMap fun u => x :: u := by
  induction us generalizing u with
  | nil => simp
  | cons v us ih => rw [List.intercalate_cons_cons, ih, List.flatMap_cons, List.append_assoc]; rfl

/-- They stand behind all elements but the last. -/
theorem intercalate_concat (x : α) (us : List (List α)) (u : List α) :
    [x].intercalate (us ++ [u]) = (us.flatMap fun u => u ++ [x]) ++ u := by
  induction us with
  | nil => simp
  | cons v us ih =>
    cases us with
    | nil => simp
    | cons v' us =>
      have hfront : ((v :: v' :: us).flatMap fun u => u ++ [x]) =
          v ++ [x] ++ (v' :: us).flatMap fun u => u ++ [x] := rfl
      rw [List.cons_append, List.cons_append, List.intercalate_cons_cons, ← List.cons_append, ih, hfront,
        List.append_assoc, List.append_assoc, List.append_assoc]

variable {x : α}

/-- `(rx){n}r` -/
theorem mem_pow_separated {n : ℕ} : w ∈ ((r * literal [x]) ^ n * r).matches' ↔
    ∃ us : List (List α), us.length = n + 1 ∧ w = [x].intercalate us ∧ ∀ u ∈ us, u ∈ r.matches' := by
  rw [mem_mul]
  constructor
  · rintro ⟨v, hv, u, hu, rfl⟩
    obtain ⟨us, rfl, rfl, hus⟩ := (mem_pow_map fun _ => mem_mul_literal).mp hv
    exact ⟨us ++ [u], List.length_append, (intercalate_concat x us u).symm,
      List.forall_mem_append.mpr ⟨hus, List.forall_mem_singleton.mpr hu⟩⟩
  · rintro ⟨us, hlength, rfl, hus⟩
    rcases List.eq_nil_or_concat us with rfl | ⟨us, u, rfl⟩
    · cases hlength
    · rw [List.concat_eq_append] at hlength hus ⊢
      obtain ⟨hfront, hu⟩ := List.forall_mem_append.mp hus
      exact ⟨_, (mem_pow_map fun _ => mem_mul_literal).mpr ⟨us, by simpa using hlength, rfl, hfront⟩, u,
        List.forall_mem_singleton.mp hu, (intercalate_concat x us u).symm⟩

/-- `r(xr){n}` -/
theorem mem_separated_pow {n : ℕ} : w ∈ (r * (literal [x] * r) ^ n).matches' ↔
    ∃ us : List (List α), us.length = n + 1 ∧ w = [x].intercalate us ∧ ∀ u ∈ us, u ∈ r.matches' := by
  rw [mem_mul]
  constructor
  · rintro ⟨u, hu, v, hv, rfl⟩
    obtain ⟨us, rfl, rfl, hus⟩ := (mem_pow_map fun _ => mem_literal_mul).mp hv
    exact ⟨u :: us, rfl, (intercalate_cons x u us).symm, List.forall_mem_cons.mpr ⟨hu, hus⟩⟩
  · rintro ⟨us, hlength, rfl, hus⟩
    obtain ⟨u, us, rfl⟩ := List.exists_cons_of_length_eq_add_one hlength
    obtain ⟨hu, hus⟩ := List.forall_mem_cons.mp hus
    exact ⟨u, hu, _, (mem_pow_map fun _ => mem_literal_mul).mpr ⟨us, Nat.succ.inj hlength, rfl, hus⟩,
      (intercalate_cons x u us).symm⟩

/-- `(r(xr)*)?` -/
theorem mem_separated : w ∈ (optional (r * (literal [x] * r).star)).matches' ↔
    ∃ us : List (List α), w = [x].intercalate us ∧ ∀ u ∈ us, u ∈ r.matches' := by
  rw [mem_optional, mem_mul]
  constructor
  · rintro (rfl | ⟨u, hu, v, hv, rfl⟩)
    · exact ⟨[], rfl, List.forall_mem_nil _⟩
    · obtain ⟨us, rfl, hus⟩ := (mem_star_map fun _ => mem_literal_mul).mp hv
      exact ⟨u :: us, (intercalate_cons x u us).symm, List.forall_mem_cons.mpr ⟨hu, hus⟩⟩
  · rintro ⟨us, rfl, hus⟩
    cases us with
    | nil => exact .inl rfl
    | cons u us =>
      obtain ⟨hu, hus⟩ := List.forall_mem_cons.mp hus
      exact .inr ⟨u, hu, _, (mem_star_map fun _ => mem_literal_mul).mpr ⟨us, rfl, hus⟩,
        (intercalate_cons x u us).symm⟩

/-- `(rx){n}` -/
theorem mem_pow_terminated {n : ℕ} : w ∈ ((r * literal [x]) ^ n).matches' ↔
    ∃ us : List (List α), us.length = n ∧ (w = us.flatMap fun u => u ++ [x]) ∧
      ∀ u ∈ us, u ∈ r.matches' := mem_pow_map fun _ => mem_mul_literal

/-- `(rx(rx)*)?` -/
theorem mem_terminated : w ∈ (optional (r * literal [x] * (r * literal [x]).star)).matches' ↔
    ∃ us : List (List α), (w = us.flatMap fun u => u ++ [x]) ∧ ∀ u ∈ us, u ∈ r.matches' := by
  rw [mem_optional, mem_mul]
  constructor
  · rintro (rfl | ⟨_, hu, v, hv, rfl⟩)
    · exact ⟨[], rfl, List.forall_mem_nil _⟩
    · obtain ⟨u, hfirst, rfl⟩ := mem_mul_literal.mp hu
      obtain ⟨us, rfl, hus⟩ := (mem_star_map fun _ => mem_mul_literal).mp hv
      exact ⟨u :: us, rfl, List.forall_mem_cons.mpr ⟨hfirst, hus⟩⟩
  · rintro ⟨us, rfl, hus⟩
    cases us with
    | nil => exact .inl rfl
    | cons u us =>
      obtain ⟨hu, hrest⟩ := List.forall_mem_cons.mp hus
      exact .inr ⟨u ++ [x], mem_mul_literal.mpr ⟨u, hu, rfl⟩, _,
        (mem_star_map fun _ => mem_mul_literal).mpr ⟨us, rfl, hrest⟩, rfl⟩

end RegularExpression
