import Flextunnel.Lib.Basic
import Flextunnel.Lib.Machine

/-!
# Filters that remember

`sieve` is a filter whose predicate carries a state from entry to entry. `IsSieve` says what
such a predicate checks: an entry passes when it is well formed by itself and the state has
seen nothing it clashes with, and an entry that passed is seen from then on. It leaves open
what a refused entry leaves behind, so it fits a predicate that records some of an entry's
values before it refuses it.

`greedy` is the filter such a predicate stands for: an entry is kept when it is well formed and
clashes with no entry kept before it. A sieve is greedy up to the first entry that is refused
though it clashes with nothing kept, and never afterwards. `RecordsEarly` is about a predicate
that records more than what passes.
-/

set_option autoImplicit false

namespace Flextunnel.Lib

variable {σ α : Type}

/-- The entries `step` passes, with its state threaded from left to right. -/
def sieve (step : σ → α → σ × Bool) : σ → List α → List α
  | _, [] => []
  | s, x :: xs =>
    if (step s x).2 then x :: sieve step (step s x).1 xs else sieve step (step s x).1 xs

/-- A sieve drops entries and does nothing else. -/
theorem sieve_sublist (step : σ → α → σ × Bool) (s : σ) (xs : List α) :
    (sieve step s xs).Sublist xs := by
  induction xs generalizing s with
  | nil => exact .slnil
  | cons x xs ih =>
    unfold sieve
    split
    · exact (ih _).cons_cons x
    · exact (ih _).cons x

/-- A change the predicate does not see passes through the sieve. -/
theorem sieve_map {step : σ → α → σ × Bool} {g : α → α} (hg : ∀ s x, step s (g x) = step s x)
    (s : σ) (xs : List α) : sieve step s (xs.map g) = (sieve step s xs).map g := by
  induction xs generalizing s with
  | nil => rfl
  | cons x xs ih =>
    simp only [List.map_cons, sieve, hg]
    split
    · rw [List.map_cons, ih]
    · exact ih _

theorem sieve_map_eq_self_iff {step : σ → α → σ × Bool} {g : α → α}
    (hg : ∀ s x, step s (g x) = step s x) {s : σ} {xs : List α} :
    sieve step s (xs.map g) = xs.map g ↔ sieve step s xs = xs := by
  rw [sieve_map hg]
  constructor
  · intro h
    apply (sieve_sublist step s xs).eq_of_length
    simpa using congrArg List.length h
  · intro h
    rw [h]

/-- What a sieve checks: `ok` of the entry alone, and that nothing seen clashes with it. -/
structure IsSieve (step : σ → α → σ × Bool) (ok : α → Prop) (clash : α → α → Prop)
    (seen : σ → α → Prop) : Prop where
  passes_iff : ∀ s x, (step s x).2 = true ↔ ok x ∧ ¬seen s x
  seen_passed : ∀ s x y, (step s x).2 = true → (seen (step s x).1 y ↔ seen s y ∨ clash x y)
  seen_mono : ∀ s x y, seen s y → seen (step s x).1 y

namespace IsSieve

variable {step : σ → α → σ × Bool} {ok : α → Prop} {clash : α → α → Prop}
  {seen : σ → α → Prop} {s : σ} {xs : List α}

/-- What a sieve leaves alone, from a state that has seen some entries. -/
theorem eq_self_iff_of_seen (h : IsSieve step ok clash seen) :
    sieve step s xs = xs ↔
      (∀ x ∈ xs, ok x ∧ ¬seen s x) ∧ xs.Pairwise fun x y => ¬clash x y := by
  induction xs generalizing s with
  | nil => simp [sieve]
  | cons x xs ih =>
    by_cases hx : (step s x).2 = true
    · have hok := (h.passes_iff s x).1 hx
      have hseen := fun y => h.seen_passed s x y hx
      simp only [sieve, hx, if_true, List.cons.injEq, true_and, ih, List.pairwise_cons,
        List.forall_mem_cons, hok, not_false_eq_true, and_self, hseen, not_or]
      constructor
      · rintro ⟨hxs, hpair⟩
        exact ⟨fun y hy => ⟨(hxs y hy).1, (hxs y hy).2.1⟩, fun y hy => (hxs y hy).2.2, hpair⟩
      · rintro ⟨hxs, hclash, hpair⟩
        exact ⟨fun y hy => ⟨(hxs y hy).1, (hxs y hy).2, hclash y hy⟩, hpair⟩
    -- a refused head makes the result shorter than the list
    have hlen := (sieve_sublist step (step s x).1 xs).length_le
    simp only [sieve, hx, Bool.false_eq_true, if_false]
    constructor
    · intro heq
      rw [heq, List.length_cons] at hlen
      omega
    · rintro ⟨hxs, -⟩
      exact absurd ((h.passes_iff s x).2 (hxs x List.mem_cons_self)) hx

/-- What passes is well formed, unseen and without a clash. -/
theorem passed (h : IsSieve step ok clash seen) :
    (∀ x ∈ sieve step s xs, ok x ∧ ¬seen s x) ∧
      (sieve step s xs).Pairwise fun x y => ¬clash x y := by
  induction xs generalizing s with
  | nil => simp [sieve]
  | cons x xs ih =>
    obtain ⟨hxs, hpair⟩ := ih (s := (step s x).1)
    have hold : ∀ y ∈ sieve step (step s x).1 xs, ok y ∧ ¬seen s y :=
      fun y hy => ⟨(hxs y hy).1, fun hs => (hxs y hy).2 (h.seen_mono s x y hs)⟩
    by_cases hx : (step s x).2 = true
    · simp only [sieve, hx, if_true, List.pairwise_cons, List.forall_mem_cons]
      refine ⟨⟨(h.passes_iff s x).1 hx, hold⟩, fun y hy hc => ?_, hpair⟩
      exact (hxs y hy).2 ((h.seen_passed s x y hx).2 (.inr hc))
    · simp only [sieve, hx, Bool.false_eq_true, if_false]
      exact ⟨hold, hpair⟩

variable (h : IsSieve step ok clash seen) (hs : ∀ x, ¬seen s x)
include h hs

/-- A sieve leaves a list alone when its entries are well formed and none clash. -/
theorem eq_self_iff :
    sieve step s xs = xs ↔ (∀ x ∈ xs, ok x) ∧ xs.Pairwise fun x y => ¬clash x y := by
  simp [h.eq_self_iff_of_seen, hs]

/-- A second pass drops nothing. -/
theorem sieve_sieve : sieve step s (sieve step s xs) = sieve step s xs := by
  obtain ⟨hok, hpair⟩ : (∀ x ∈ sieve step s xs, ok x ∧ ¬seen s x) ∧ _ := h.passed
  exact (h.eq_self_iff hs).2 ⟨fun x hx => (hok x hx).1, hpair⟩

/-- A list that passes still passes when entries are taken out. -/
theorem eq_self_sublist {ys : List α} (hxs : sieve step s xs = xs) (hsub : ys.Sublist xs) :
    sieve step s ys = ys := by
  obtain ⟨hok, hpair⟩ := (h.eq_self_iff hs).1 hxs
  exact (h.eq_self_iff hs).2 ⟨fun y hy => hok y (hsub.subset hy), hpair.sublist hsub⟩

/-- A list that passes still passes when an entry is replaced or added that clashes with none. -/
theorem eq_self_upsert {κ : Type} [DecidableEq κ] {key : α → κ} {x : α}
    (hsymm : ∀ a b, clash a b → clash b a) (hkey : ∀ a b, key a = key b → clash a b)
    (hxs : sieve step s xs = xs) (hx : ok x) (hclash : ∀ y ∈ xs, key y ≠ key x → ¬clash x y) :
    sieve step s (upsert key x xs) = upsert key x xs := by
  obtain ⟨hok, hpair⟩ := (h.eq_self_iff hs).1 hxs
  refine (h.eq_self_iff hs).2 ⟨fun y hy => ?_, ?_⟩
  · rcases mem_of_mem_upsert hy with rfl | hy
    · exact hx
    · exact hok y hy
  · exact pairwise_upsert (fun a b hab hba => hab (hsymm b a hba)) hpair
      (fun a b hab heq => hab (hkey a b heq)) hclash

end IsSieve

/-! ## Greedy filters -/

section Greedy

variable {step : σ → α → σ × Bool} {s : σ} {xs : List α} {x : α}

/-- The state a sieve is in after a list. -/
def sieveState (step : σ → α → σ × Bool) (s : σ) (xs : List α) : σ :=
  xs.foldl (fun s x => (step s x).1) s

theorem sieveState_concat :
    sieveState step s (xs ++ [x]) = (step (sieveState step s xs) x).1 := by
  simp [sieveState]

theorem sieve_concat :
    sieve step s (xs ++ [x]) =
      if (step (sieveState step s xs) x).2 then sieve step s xs ++ [x] else sieve step s xs := by
  induction xs generalizing s with
  | nil => rfl
  | cons y xs ih =>
    have hstate : sieveState step s (y :: xs) = sieveState step (step s y).1 xs := rfl
    rw [List.cons_append, sieve, sieve, ih, hstate]
    by_cases hpass : (step (sieveState step (step s y).1 xs) x).2 = true
    · rw [if_pos hpass, if_pos hpass]
      split <;> rfl
    · rw [if_neg hpass, if_neg hpass]

/-- After `pre`, which both filters keep, the greedy one keeps `x`; the sieve does not, and has
seen something `x` clashes with. -/
def Diverged (step : σ → α → σ × Bool) (seen : σ → α → Prop) (s : σ) (xs kept : List α) : Prop :=
  ∃ pre x, pre ++ [x] <+: kept ∧ seen (sieveState step s xs) x ∧
    pre <+: sieve step s xs ∧ ¬ pre ++ [x] <+: sieve step s xs

namespace IsSieve

variable {ok : α → Prop} {clash : α → α → Prop} {seen : σ → α → Prop}

/-- A kept entry is seen by whatever clashes with it. -/
theorem seen_of_clash (h : IsSieve step ok clash seen) {y : α} (hy : y ∈ sieve step s xs)
    (hclash : clash y x) : seen (sieveState step s xs) x := by
  induction xs using List.reverseRecOn with
  | nil => simp [sieve] at hy
  | append_singleton xs z ih =>
    rw [sieveState_concat]
    rw [sieve_concat] at hy
    split at hy
    next hpass =>
      rcases List.mem_append.1 hy with hy | hy
      · exact h.seen_mono _ _ _ (ih hy)
      · rw [List.mem_singleton.1 hy] at hclash
        exact (h.seen_passed _ _ _ hpass).2 (.inr hclash)
    · exact h.seen_mono _ _ _ (ih hy)

theorem diverged_concat (h : IsSieve step ok clash seen) {kept kept' : List α}
    (hd : Diverged step seen s xs kept) (hkept : kept <+: kept') :
    Diverged step seen s (xs ++ [x]) kept' := by
  obtain ⟨pre, y, hy, hseen, hpre, hnot⟩ := hd
  refine ⟨pre, y, hy.trans hkept, ?_, ?_⟩
  · rw [sieveState_concat]
    exact h.seen_mono _ _ _ hseen
  rw [sieve_concat]
  split
  next hpass =>
    refine ⟨hpre.trans (List.prefix_append _ _), fun hlong => ?_⟩
    rcases List.prefix_concat_iff.1 hlong with heq | hold
    · obtain rfl : y = x := by simpa using congrArg List.getLast? heq
      exact ((h.passes_iff _ _).1 hpass).2 hseen
    · exact hnot hold
  · exact ⟨hpre, hnot⟩

end IsSieve

variable {ok : α → Prop} {clash : α → α → Prop} [DecidablePred ok] [DecidableRel clash]

variable (ok clash) in
/-- The entries that are well formed and clash with no entry kept before them. -/
def greedy (xs : List α) : List α :=
  xs.foldl (fun kept x => if ok x ∧ ∀ k ∈ kept, ¬clash k x then kept ++ [x] else kept) []

theorem greedy_concat :
    greedy ok clash (xs ++ [x]) =
      if ok x ∧ ∀ k ∈ greedy ok clash xs, ¬clash k x then greedy ok clash xs ++ [x]
      else greedy ok clash xs := by
  rw [greedy, List.foldl_append]
  rfl

theorem greedy_prefix_concat : greedy ok clash xs <+: greedy ok clash (xs ++ [x]) := by
  rw [greedy_concat]
  split
  · exact List.prefix_append _ _
  · exact List.prefix_rfl

namespace IsSieve

variable {seen : σ → α → Prop}

/-- A sieve is greedy until it refuses an entry that clashes with nothing kept. -/
theorem eq_greedy_or_diverged (h : IsSieve step ok clash seen) (s : σ) (xs : List α) :
    sieve step s xs = greedy ok clash xs ∨ Diverged step seen s xs (greedy ok clash xs) := by
  induction xs using List.reverseRecOn with
  | nil => exact .inl rfl
  | append_singleton xs x ih =>
    rcases ih with heq | hd
    · rw [sieve_concat, greedy_concat, heq]
      by_cases hpass : (step (sieveState step s xs) x).2 = true
      · obtain ⟨hok, hnot⟩ := (h.passes_iff _ _).1 hpass
        have hfree : ∀ k ∈ greedy ok clash xs, ¬clash k x :=
          fun k hk hc => hnot (h.seen_of_clash (heq ▸ hk) hc)
        rw [if_pos hpass, if_pos ⟨hok, hfree⟩]
        exact .inl rfl
      by_cases hkept : ok x ∧ ∀ k ∈ greedy ok clash xs, ¬clash k x
      · have hseen : seen (sieveState step s xs) x := by
          by_contra hnot
          exact hpass ((h.passes_iff _ _).2 ⟨hkept.1, hnot⟩)
        rw [if_pos hkept]
        refine .inr ⟨greedy ok clash xs, x, List.prefix_rfl, ?_, ?_⟩
        · rw [sieveState_concat]
          exact h.seen_mono _ _ _ hseen
        rw [sieve_concat, if_neg hpass, heq]
        refine ⟨List.prefix_rfl, fun hlong => ?_⟩
        have hlen := hlong.length_le
        rw [List.length_append, List.length_singleton] at hlen
        omega
      · rw [if_neg hpass, if_neg hkept]
        exact .inl rfl
    · exact .inr (h.diverged_concat hd greedy_prefix_concat)

/-- A sieve that is greedy now was greedy before. -/
theorem eq_greedy_of_concat (h : IsSieve step ok clash seen)
    (heq : sieve step s (xs ++ [x]) = greedy ok clash (xs ++ [x])) :
    sieve step s xs = greedy ok clash xs := by
  rcases h.eq_greedy_or_diverged s xs with hless | hd
  · exact hless
  · obtain ⟨pre, y, hy, -, -, hnot⟩ := h.diverged_concat (x := x) hd greedy_prefix_concat
    exact absurd (heq ▸ hy) hnot

/-- **A sieve that is greedy on a list refuses no entry of it that clashes with nothing kept.** -/
theorem not_seen_of_eq_greedy (h : IsSieve step ok clash seen) {pre post : List α}
    (heq : sieve step s (pre ++ x :: post) = greedy ok clash (pre ++ x :: post))
    (hok : ok x) (hclash : ∀ k ∈ greedy ok clash pre, ¬clash k x) :
    ¬ seen (sieveState step s pre) x := by
  -- the list up to the entry
  have hupTo : sieve step s (pre ++ [x]) = greedy ok clash (pre ++ [x]) := by
    rw [List.append_cons] at heq
    induction post using List.reverseRecOn with
    | nil => rwa [List.append_nil] at heq
    | append_singleton post y ih =>
      rw [← List.append_assoc] at heq
      exact ih (h.eq_greedy_of_concat heq)
  intro hseen
  have hpass : ¬ (step (sieveState step s pre) x).2 = true :=
    fun hpass => ((h.passes_iff _ _).1 hpass).2 hseen
  have hlen := congrArg List.length hupTo
  rw [sieve_concat, if_neg hpass, h.eq_greedy_of_concat hupTo, greedy_concat,
    if_pos ⟨hok, hclash⟩] at hlen
  simp at hlen

/-- **A sieve that refuses no entry that clashes with nothing kept is greedy.** -/
theorem eq_greedy_of_not_seen (h : IsSieve step ok clash seen)
    (hfree : ∀ pre x post, xs = pre ++ x :: post → ok x →
      (∀ k ∈ greedy ok clash pre, ¬clash k x) → sieve step s pre = greedy ok clash pre →
        ¬ seen (sieveState step s pre) x) :
    sieve step s xs = greedy ok clash xs := by
  induction xs using List.reverseRecOn with
  | nil => rfl
  | append_singleton xs x ih =>
    have heq : sieve step s xs = greedy ok clash xs :=
      ih fun pre y post hxs => hfree pre y (post ++ [x]) (by simp [hxs])
    rw [sieve_concat, greedy_concat, heq]
    refine if_congr ?_ rfl rfl
    rw [h.passes_iff]
    refine and_congr_right fun hok => ⟨fun hnot k hk hc => ?_, fun hclash => ?_⟩
    · exact hnot (h.seen_of_clash (heq ▸ hk) hc)
    · exact hfree xs x [] rfl hok hclash heq

/-- **A sieve that records only what passes is greedy.** -/
theorem eq_greedy_of_refused (h : IsSieve step ok clash seen) (hs : ∀ x, ¬seen s x)
    (hrefused : ∀ s x, (step s x).2 = false → (step s x).1 = s) :
    sieve step s xs = greedy ok clash xs := by
  have hseen (pre : List α) (x : α) (hx : seen (sieveState step s pre) x) :
      ∃ k ∈ sieve step s pre, clash k x := by
    induction pre using List.reverseRecOn with
    | nil => exact absurd hx (hs x)
    | append_singleton pre y ih =>
      rw [sieveState_concat] at hx
      rw [sieve_concat]
      split
      next hpass =>
        rcases (h.seen_passed _ _ _ hpass).1 hx with hx | hclash
        · obtain ⟨k, hk, hclash⟩ := ih hx
          exact ⟨k, List.mem_append_left _ hk, hclash⟩
        · exact ⟨y, List.mem_append_right _ (List.mem_singleton.2 rfl), hclash⟩
      next hpass =>
        rw [hrefused _ _ (by simpa using hpass)] at hx
        exact ih hx
  refine h.eq_greedy_of_not_seen fun pre x post _ _ hfree heq hx => ?_
  obtain ⟨k, hk, hclash⟩ := hseen pre x hx
  exact hfree k (heq ▸ hk) hclash

end IsSieve

end Greedy

/-! ## Filters that record before they refuse

Three values of an entry must be new: its id, its name and a third one. The filter records an id
before it looks at the rest of the entry, and a name before it looks at the third value. -/

section Recording

variable {κ : Type} {step : σ → α → σ × Bool} {s : σ} {ok : α → Prop} {id name third : α → κ}
  {ids names thirds : σ → List κ}

/-- What one step of such a filter records. -/
structure RecordsEarly (step : σ → α → σ × Bool) (ok : α → Prop) (id name third : α → κ)
    (ids names thirds : σ → List κ) : Prop where
  ids_iff : ∀ s x y, ok y → (id y ∈ ids (step s x).1 ↔ id y ∈ ids s ∨ id x = id y)
  names_iff : ∀ s x n, n ∈ names (step s x).1 ↔ n ∈ names s ∨ (ok x ∧ id x ∉ ids s) ∧ name x = n
  thirds_iff : ∀ s x t, t ∈ thirds (step s x).1 ↔ t ∈ thirds s ∨ (step s x).2 = true ∧ third x = t

/-- An entry whose name is recorded: it is well formed and the first one with its id. -/
def Reserves (ok : α → Prop) (id name : α → κ) (xs : List α) (n : κ) : Prop :=
  ∃ pre x post, xs = pre ++ x :: post ∧ ok x ∧ (∀ y ∈ pre, id y ≠ id x) ∧ name x = n

/-- An entry the filter refuses for what it recorded of entries before it, whether they were
kept or not: one with the same id, or one that reserves the name. -/
def Shadowed (ok : α → Prop) (id name : α → κ) (pre : List α) (x : α) : Prop :=
  (∃ y ∈ pre, id y = id x) ∨ Reserves ok id name pre (name x)

theorem reserves_concat {xs : List α} {x : α} {n : κ} :
    Reserves ok id name (xs ++ [x]) n ↔
      Reserves ok id name xs n ∨ (ok x ∧ ∀ y ∈ xs, id y ≠ id x) ∧ name x = n := by
  constructor
  · rintro ⟨pre, y, post, hxs, hok, hfirst, hname⟩
    rcases split_concat hxs with ⟨rfl, rfl, -⟩ | ⟨post', -, rfl⟩
    · exact .inr ⟨⟨hok, hfirst⟩, hname⟩
    · exact .inl ⟨pre, y, post', rfl, hok, hfirst, hname⟩
  · rintro (⟨pre, y, post, rfl, hok, hfirst, hname⟩ | ⟨⟨hok, hfirst⟩, hname⟩)
    · exact ⟨pre, y, post ++ [x], by simp, hok, hfirst, hname⟩
    · exact ⟨xs, x, [], rfl, hok, hfirst, hname⟩

namespace RecordsEarly

variable (h : RecordsEarly step ok id name third ids names thirds)
include h

/-- The recorded ids are those of the entries met. -/
theorem ids_after (hs : ∀ x, ok x → id x ∉ ids s) (xs : List α) {y : α} (hy : ok y) :
    id y ∈ ids (sieveState step s xs) ↔ ∃ x ∈ xs, id x = id y := by
  induction xs using List.reverseRecOn with
  | nil => simpa [sieveState] using hs y hy
  | append_singleton xs x ih =>
    rw [sieveState_concat, h.ids_iff _ _ _ hy, ih]
    simp [or_and_right, exists_or]

/-- The recorded names are the reserved ones. -/
theorem names_after (hs : ∀ x, ok x → id x ∉ ids s) (hnames : names s = []) (xs : List α) (n : κ) :
    n ∈ names (sieveState step s xs) ↔ Reserves ok id name xs n := by
  induction xs using List.reverseRecOn with
  | nil => simp [sieveState, hnames, Reserves]
  | append_singleton xs x ih =>
    rw [sieveState_concat, h.names_iff, ih, reserves_concat]
    refine or_congr_right (and_congr_left' (and_congr_right fun hok => ?_))
    rw [h.ids_after hs xs hok]
    simp

/-- Of the third value only what passed is recorded. -/
theorem thirds_after (hthirds : thirds s = []) (xs : List α) (t : κ) :
    t ∈ thirds (sieveState step s xs) ↔ ∃ x ∈ sieve step s xs, third x = t := by
  induction xs using List.reverseRecOn with
  | nil => simp [sieveState, sieve, hthirds]
  | append_singleton xs x ih =>
    rw [sieveState_concat, h.thirds_iff, ih, sieve_concat]
    split
    next hpass => simp [hpass, or_and_right, exists_or]
    next hpass => simp [hpass]

variable {clash : α → α → Prop} [DecidablePred ok] [DecidableRel clash]

/-- **The filter is greedy exactly where nothing it ought to keep is shadowed.** -/
theorem eq_greedy_iff
    (hsieve : IsSieve step ok clash fun s x => id x ∈ ids s ∨ name x ∈ names s ∨ third x ∈ thirds s)
    (hclash : ∀ x y, third x = third y → clash x y) (hids : ids s = []) (hnames : names s = [])
    (hthirds : thirds s = []) (xs : List α) :
    sieve step s xs = greedy ok clash xs ↔
      ∀ pre x post, xs = pre ++ x :: post → ok x → (∀ k ∈ greedy ok clash pre, ¬clash k x) →
        ¬ Shadowed ok id name pre x := by
  have hs : ∀ x, ok x → id x ∉ ids s := by simp [hids]
  have hshadow (pre : List α) (x : α) (hok : ok x) : Shadowed ok id name pre x ↔
      id x ∈ ids (sieveState step s pre) ∨ name x ∈ names (sieveState step s pre) := by
    rw [h.ids_after hs pre hok, h.names_after hs hnames]
    rfl
  constructor
  · rintro heq pre x post rfl hok hfree hshadowed
    refine hsieve.not_seen_of_eq_greedy heq hok hfree ?_
    rw [← or_assoc]
    exact .inl ((hshadow pre x hok).1 hshadowed)
  intro hnone
  refine hsieve.eq_greedy_of_not_seen fun pre x post hxs hok hfree heq => ?_
  rw [← or_assoc]
  rintro (hseen | hthird)
  · exact hnone pre x post hxs hok hfree ((hshadow pre x hok).2 hseen)
  · -- the third value is recorded of the entries that are kept
    obtain ⟨k, hk, hthird⟩ := (h.thirds_after hthirds pre _).1 hthird
    exact hfree k (heq ▸ hk) (hclash k x hthird)

end RecordsEarly

end Recording

end Flextunnel.Lib
