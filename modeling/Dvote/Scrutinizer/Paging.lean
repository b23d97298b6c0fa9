import Dvote.Scrutinizer.List

/-!
# Paging with `List`

A caller pages through the keys under a prefix by listing from an empty `from`, and then from
the last key of each page, until a page comes back empty. From a non-empty `from` a page
holds the next candidates after it (`candidates_of_ne_nil`), and the candidates after the
page's last key are those after the page (`candidates_last`), so every key is returned once,
in order.

An empty `from` means "from the start" to `List`. A page that ends on the empty suffix,
which is the bare prefix stored as a key, therefore starts the scan again: this happens
exactly when the first page is that suffix alone, and then paging never ends
(`paging_terminates_unless_empty_suffix`).
-/

open Vochain

namespace Scrutinizer

/-- Paging through the keys under `keyPrefix`, `n` at a time: list from `fromKey`, stop at an
empty page, and otherwise go on from the last key of the page. `fuel` bounds the number of
pages: `none` when no page within it came back empty. -/
def pages (s : Scrutinizer) (n : Int) (keyPrefix : Bytes) : Nat → Bytes → Option (List Bytes)
  | 0, _ => none
  | fuel + 1, fromKey =>
      match (s.list n fromKey keyPrefix).getLast? with
      | none => some []
      | some last => (s.pages n keyPrefix fuel last).map (s.list n fromKey keyPrefix ++ ·)

/-! ### Sorted lists of keys -/

/-- After the first `n` keys of a sorted list, the keys after the last of them are the rest
of the list. -/
theorem filter_lt_last_take {l : List Bytes} (hs : l.Sorted Bytes.Lt) {n : Nat} {last : Bytes}
    (hlast : (l.take n).getLast? = some last) :
  l.filter (fun x => decide (Bytes.Lt last x)) = l.drop n
  := by
  obtain ⟨init, hinit⟩ := List.getLast?_eq_some_iff.mp hlast
  have hsplit := hs
  rw [← List.take_append_drop n l, hinit, List.Sorted, List.pairwise_append,
    List.pairwise_append] at hsplit
  have hfirst : (init ++ [last]).filter (fun x => decide (Bytes.Lt last x)) = [] := by
    refine List.filter_eq_nil_iff.mpr fun x hx => ?_
    rcases List.mem_append.mp hx with hx | hx
    · simpa using Bytes.lt_asymm (hsplit.1.2.2 x hx last (.head _))
    · rw [List.mem_singleton] at hx
      subst hx
      simpa using Bytes.lt_irrefl _
  have hrest : (l.drop n).filter (fun x => decide (Bytes.Lt last x)) = l.drop n :=
    List.filter_eq_self.mpr fun y hy => by simpa using hsplit.2.2 last (by simp) y hy
  conv_lhs => rw [← List.take_append_drop n l, hinit]
  rw [List.filter_append, hfirst, hrest, List.nil_append]

/-- From a non-empty `from`, the candidates are the suffixes after it. -/
theorem candidates_of_ne_nil (db : Db) {fromKey : Bytes} (hne : fromKey ≠ []) (keyPrefix : Bytes) :
  candidates db fromKey keyPrefix = (suffixes db keyPrefix).filter fun x => decide (Bytes.Lt fromKey x)
  := by
  refine List.filter_congr fun x _ => ?_
  rcases Bytes.lt_trichotomy x fromKey with h | rfl | h
  · simp [h, Bytes.lt_asymm h]
  · simp [Bytes.lt_irrefl, hne]
  · have hx : x ≠ fromKey := by
      rintro rfl
      exact Bytes.lt_irrefl _ h
    simp [h, Bytes.lt_asymm h, hx]

/-- The candidates after the last key of a page are those after the page. -/
theorem candidates_last (db : Db) {fromKey last keyPrefix : Bytes} {n : Nat}
    (hlast : ((candidates db fromKey keyPrefix).take n).getLast? = some last) (hne : last ≠ []) :
  candidates db last keyPrefix = (candidates db fromKey keyPrefix).drop n
  := by
  have hmem := (List.mem_filter.mp
    (List.mem_of_mem_take (List.mem_of_getLast?_eq_some hlast))).2
  rw [← filter_lt_last_take (candidates_sorted db fromKey keyPrefix) hlast,
    candidates_of_ne_nil db hne, candidates, List.filter_filter]
  refine List.filter_congr fun x _ => ?_
  by_cases hx : Bytes.Lt last x
  · have hfrom : ¬ Bytes.Lt x fromKey := fun h => by
      simp only [decide_eq_true_eq] at hmem
      exact hmem.1 (Bytes.lt_trans hx h)
    have hne : x ≠ fromKey := by
      rintro rfl
      simp only [decide_eq_true_eq] at hmem
      exact hmem.1 hx
    simp [hx, hfrom, hne]
  · simp [hx]

/-! ### Paging -/

/-- One page: the first `n` candidates, then the pages from its last key. -/
theorem pages_succ (s : Scrutinizer) {n : Int} (hn : 1 ≤ n) (keyPrefix : Bytes) (fuel : Nat)
    (fromKey : Bytes) :
  s.pages n keyPrefix (fuel + 1) fromKey
    = match ((candidates s.storage fromKey keyPrefix).take n.toNat).getLast? with
      | none => some []
      | some last => (s.pages n keyPrefix fuel last).map
          ((candidates s.storage fromKey keyPrefix).take n.toNat ++ ·)
  := by
  rw [pages, list_eq_take s hn]

/-- A page with no last key is the last page: no candidate is left. -/
theorem eq_nil_of_page_empty {l : List Bytes} {n : Int} (hn : 1 ≤ n)
    (h : (l.take n.toNat).getLast? = none) :
  l = []
  := by
  rw [List.getLast?_eq_none_iff, List.take_eq_nil_iff] at h
  exact h.resolve_left (by omega)

/-- Paging returns every candidate once the pages from the last key of the first page, which
is not the empty key, return the candidates after it. -/
theorem pages_succ_of_rest (s : Scrutinizer) {n : Int} (hn : 1 ≤ n) (keyPrefix : Bytes)
    (fuel : Nat) (fromKey : Bytes)
    (hrest : ∀ last,
      ((candidates s.storage fromKey keyPrefix).take n.toNat).getLast? = some last →
        last ≠ [] ∧ s.pages n keyPrefix fuel last = some (candidates s.storage last keyPrefix)) :
  s.pages n keyPrefix (fuel + 1) fromKey = some (candidates s.storage fromKey keyPrefix)
  := by
  rw [pages_succ s hn]
  cases hlast : ((candidates s.storage fromKey keyPrefix).take n.toNat).getLast? with
  | none => rw [eq_nil_of_page_empty hn hlast]
  | some last =>
      obtain ⟨hne, hpages⟩ := hrest last hlast
      dsimp only
      rw [hpages, candidates_last s.storage hlast hne, Option.map_some', List.take_append_drop]

/-- The candidates after the last key of a page are fewer than before it. -/
theorem candidates_last_length_lt (db : Db) {fromKey last keyPrefix : Bytes} {n : Nat}
    (hn : 1 ≤ n) (hlast : ((candidates db fromKey keyPrefix).take n).getLast? = some last)
    (hne : last ≠ []) :
  (candidates db last keyPrefix).length < (candidates db fromKey keyPrefix).length
  := by
  have hpos := List.length_pos_of_mem (List.mem_of_mem_take (List.mem_of_getLast?_eq_some hlast))
  rw [candidates_last db hlast hne, List.length_drop]
  omega

/-- From a non-empty `from`, paging with enough pages returns the candidates after it. -/
theorem pages_of_ne_nil (s : Scrutinizer) {n : Int} (hn : 1 ≤ n) (keyPrefix : Bytes)
    (fuel : Nat) :
  ∀ fromKey : Bytes, fromKey ≠ [] → (candidates s.storage fromKey keyPrefix).length < fuel →
    s.pages n keyPrefix fuel fromKey = some (candidates s.storage fromKey keyPrefix)
  := by
  induction fuel with
  | zero => exact fun _ _ h => absurd h (Nat.not_lt_zero _)
  | succ fuel ih =>
      intro fromKey hne hlen
      refine pages_succ_of_rest s hn keyPrefix fuel fromKey fun last hlast => ?_
      -- the page's last key is a candidate, so it comes after `from`
      have hgt : Bytes.Lt fromKey last := by
        have hmem := List.mem_of_mem_take (List.mem_of_getLast?_eq_some hlast)
        rw [candidates_of_ne_nil _ hne] at hmem
        simpa using (List.mem_filter.mp hmem).2
      have hne' : last ≠ [] := by
        rintro rfl
        exact Bytes.not_lt_nil _ hgt
      have hfewer := candidates_last_length_lt s.storage (by omega) hlast hne'
      exact ⟨hne', ih last hne' (by omega)⟩

/-- A first page holding the empty suffix alone is returned again from its last key, the
empty `from`, on every page after it. -/
theorem pages_eq_none_of_first_page (s : Scrutinizer) {n : Int} {keyPrefix : Bytes}
    (hpage : s.list n [] keyPrefix = [[]]) (fuel : Nat) :
  s.pages n keyPrefix fuel [] = none
  := by
  induction fuel with
  | zero => rfl
  | succ fuel ih =>
      rw [pages, hpage]
      simp [ih]

/-- A page of ascending keys that ends on the empty key holds it alone, the least key. -/
theorem take_eq_of_getLast?_nil {l : List Bytes} (hl : l.Sorted Bytes.Lt) {k : Nat}
    (h : (l.take k).getLast? = some []) :
  l.take k = [[]]
  := by
  obtain ⟨init, hinit⟩ := List.getLast?_eq_some_iff.mp h
  have hpair := hl.take (n := k)
  rw [hinit, List.pairwise_append] at hpair
  have hinit_nil : init = [] := List.eq_nil_iff_forall_not_mem.mpr
    fun x hx => Bytes.not_lt_nil x (hpair.2.2 x hx [] (.head _))
  rw [hinit, hinit_nil, List.nil_append]

/-- Whenever the first page is not the empty suffix alone, paging from an empty `from`
terminates with every suffix, each once in ascending order; when it is, paging returns that
page forever and never terminates. -/
theorem paging_terminates_unless_empty_suffix (s : Scrutinizer) (keyPrefix : Bytes) (n : Int)
    (hn : 1 ≤ n) :
  (s.list n [] keyPrefix ≠ [[]] →
    ∃ fuel, s.pages n keyPrefix fuel [] = some (suffixes s.storage keyPrefix)
      ∧ (suffixes s.storage keyPrefix).Sorted Bytes.Lt) ∧
  (s.list n [] keyPrefix = [[]] → ∀ fuel, s.pages n keyPrefix fuel [] = none)
  := by
  have hsorted := suffixes_sorted s.storage keyPrefix
  refine ⟨fun hpage => ⟨(suffixes s.storage keyPrefix).length + 1, ?_, hsorted⟩,
    pages_eq_none_of_first_page s⟩
  rw [← candidates_nil]
  refine pages_succ_of_rest s hn keyPrefix _ [] fun last hlast => ?_
  -- a page ending on the empty suffix is that suffix alone, the first page excluded here
  have hne : last ≠ [] := by
    rintro rfl
    exact hpage ((list_eq_take s hn _ _).trans
      (take_eq_of_getLast?_nil (candidates_sorted _ _ _) hlast))
  have hfewer := candidates_last_length_lt s.storage (by omega) hlast hne
  exact ⟨hne, pages_of_ne_nil s hn keyPrefix _ last hne hfewer⟩

/-- A two-key store under the prefix `[2]`, paged one key at a time. -/
theorem paging_terminates_sample :
  let s : Scrutinizer := ⟨⟨[[2, 5], [2, 7]], by decide⟩, [], [], [], 0⟩
  (1 : Int) ≤ 1 ∧ s.list 1 [] [2] ≠ [[]] ∧
    ∃ fuel, s.pages 1 [2] fuel [] = some (suffixes s.storage [2])
      ∧ (suffixes s.storage [2]).Sorted Bytes.Lt
  := ⟨by decide, by decide,
    (paging_terminates_unless_empty_suffix _ [2] 1 (by decide)).1 (by decide)⟩

/-- A store holding the bare prefix `[2]` alone: paging it one key at a time from an empty
`from` returns the empty suffix on every page and never terminates. -/
theorem paging_bare_prefix_never_terminates :
  let s : Scrutinizer := ⟨⟨[[2]], by decide⟩, [], [], [], 0⟩
  (1 : Int) ≤ 1 ∧ ¬ ∃ fuel r, s.pages 1 [2] fuel [] = some r
  := ⟨by decide, fun ⟨fuel, r, h⟩ => by
    rw [pages_eq_none_of_first_page _ (by decide) fuel] at h
    cases h⟩

end Scrutinizer
