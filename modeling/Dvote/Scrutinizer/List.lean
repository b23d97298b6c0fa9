import Dvote.Scrutinizer.Basic

/-!
# Listing keys by prefix

`Scrutinizer.List(max, from, prefix)` seeks a Badger iterator to `prefix ++ from`, walks it
while the keys extend `prefix`, skips the key whose suffix is a non-empty `from`, and stops
after `max` keys. Over a sorted store this is a filter of the store's keys:

* `seek_takeWhile_eq_filter`: the keys the iterator visits are exactly the stored keys that
  extend the prefix and are not before the seek key, because those form an interval;
* `list_eq_take`: `List` returns, in ascending order, the first `min max N` of the `N`
  suffixes at or after `from`, `from` itself left out when it is not empty; and the entity
  count `NewScrutinizer` rebuilds is the number of entity keys.
-/

open Vochain

namespace Scrutinizer

/-- Go's `max--` on an `int64`: the least value, `-2 ^ 63`, wraps to the greatest,
`2 ^ 63 - 1`. -/
def decrement (n : Int) : Int :=
  if n = -9223372036854775808 then 9223372036854775807 else n - 1

/-- `Iter.Seek(key)` on a forward Badger iterator: the keys from the first one at or after
`key` on. -/
def Db.seek (db : Db) (key : Bytes) : List Bytes :=
  db.keys.dropWhile fun k => decide (Bytes.Lt k key)

/-- The loop of `List` from an iterator position on: while the key at the position extends
the prefix (`ValidForPrefix`), take its suffix, skip it if it is a non-empty `from`, and
otherwise keep it and stop once the counter, decremented, drops below one. -/
def listLoop (fromKey keyPrefix : Bytes) : Int → List Bytes → List Bytes
  | _, [] => []
  | max, k :: it =>
      if keyPrefix <+: k then
        let key := k.drop keyPrefix.length
        if 0 < fromKey.length ∧ key = fromKey then listLoop fromKey keyPrefix max it
        else if decrement max < 1 then [key]
        else key :: listLoop fromKey keyPrefix (decrement max) it
      else []

/-- `Scrutinizer.List(max, from, prefix)`. -/
def list (s : Scrutinizer) (max : Int) (fromKey keyPrefix : Bytes) : List Bytes :=
  listLoop fromKey keyPrefix max (s.storage.seek (keyPrefix ++ fromKey))

/-- `int64(^uint(0)>>1)`: the greatest `int` of a 64-bit platform, `2 ^ 63 - 1`. -/
def maxInt : Int := 9223372036854775807

/-- `NewScrutinizer` over an opened database: empty pools, and the entity count rebuilt by
listing the entity prefix `types.ScrutinizerEntityPrefix`. -/
def newScrutinizer (db : Db) (entityPrefix : UInt8) : Scrutinizer :=
  let s : Scrutinizer := ⟨db, [], [], [], 0⟩
  { s with entityCount := (s.list maxInt [] [entityPrefix]).length }

/-- The suffixes after `keyPrefix` of the stored keys that extend it, in the store's
order. -/
def suffixes (db : Db) (keyPrefix : Bytes) : List Bytes :=
  (db.keys.filter fun k => decide (keyPrefix <+: k)).map (·.drop keyPrefix.length)

/-! ### The iterator visits an interval of the store -/

section Interval

variable {p t : Bytes}

/-- A key at or after `t` is at or after every prefix of `t`. -/
private theorem not_lt_prefix_of_not_lt {k : Bytes} (ht : p <+: t) (hk : ¬ Bytes.Lt k t) :
  ¬ Bytes.Lt k p
  := by
  intro hkp
  rcases Bytes.lt_trichotomy k t with h | rfl | h
  · exact hk h
  · exact Bytes.not_lt_of_prefix ht hkp
  · exact Bytes.not_lt_of_prefix ht (Bytes.lt_trans h hkp)

/-- Past the first key at or after `t` that does not extend `p`, no key extends `p`. -/
private theorem not_prefix_of_sorted {k : Bytes} {ks : List Bytes}
    (hs : (k :: ks).Sorted Bytes.Lt) (ht : p <+: t) (hk : ¬ Bytes.Lt k t) (hp : ¬ p <+: k) :
  ∀ y ∈ ks, ¬ p <+: y
  := by
  rintro y hy ⟨u, rfl⟩
  have hky : Bytes.Lt k (p ++ u) := List.rel_of_sorted_cons hs _ hy
  exact Bytes.lt_asymm hky (Bytes.append_lt_of_not_prefix u (not_lt_prefix_of_not_lt ht hk) hp)

/-- On a sorted list, skipping the keys before `t` keeps the keys at or after it. -/
theorem dropWhile_eq_filter {keys : List Bytes} (hs : keys.Sorted Bytes.Lt) :
  keys.dropWhile (fun k => decide (Bytes.Lt k t)) = keys.filter fun k => decide ¬ Bytes.Lt k t
  := by
  induction keys with
  | nil => rfl
  | cons k ks ih =>
      by_cases hk : Bytes.Lt k t
      · simp [hk, ih hs.of_cons]
      · have hks : ∀ y ∈ ks, ¬ Bytes.Lt y t :=
          fun y hy hyt => hk (Bytes.lt_trans (List.rel_of_sorted_cons hs y hy) hyt)
        simpa [hk] using (List.filter_eq_self.mpr fun y hy => by simpa using hks y hy).symm

/-- Among keys at or after `t`, in order, those that extend a prefix `p` of `t` come
first. -/
theorem takeWhile_eq_filter {keys : List Bytes} (hs : keys.Sorted Bytes.Lt) (ht : p <+: t)
    (hge : ∀ k ∈ keys, ¬ Bytes.Lt k t) :
  keys.takeWhile (fun k => decide (p <+: k)) = keys.filter fun k => decide (p <+: k)
  := by
  induction keys with
  | nil => rfl
  | cons k ks ih =>
      by_cases hp : p <+: k
      · simp [hp, ih hs.of_cons (fun y hy => hge y (.tail _ hy))]
      · have hnone := not_prefix_of_sorted hs ht (hge k (.head _)) hp
        simpa [hp] using hnone

/-- The keys a Badger iterator visits after `Seek(t)`, while they extend a prefix `p` of
`t`: the stored keys that extend `p` and are not before `t`. -/
theorem seek_takeWhile_eq_filter (db : Db) (ht : p <+: t) :
  (db.seek t).takeWhile (fun k => decide (p <+: k))
    = db.keys.filter fun k => decide (p <+: k ∧ ¬ Bytes.Lt k t)
  := by
  have hs := db.sorted
  rw [Db.seek, dropWhile_eq_filter hs,
    takeWhile_eq_filter (hs.filter _) ht (fun k hk => by simpa using (List.mem_filter.mp hk).2),
    List.filter_filter]
  simp only [Bool.decide_and, Bool.and_comm]

end Interval

/-! ### The loop -/

/-- The loop stops at the first key that does not extend the prefix. -/
theorem listLoop_takeWhile (fromKey keyPrefix : Bytes) (max : Int) (it : List Bytes) :
  listLoop fromKey keyPrefix max it
    = listLoop fromKey keyPrefix max (it.takeWhile fun k => decide (keyPrefix <+: k))
  := by
  induction it generalizing max with
  | nil => rfl
  | cons k it ih =>
      by_cases hk : keyPrefix <+: k
      · simp only [listLoop, hk, List.takeWhile_cons_of_pos (p := fun k => decide (keyPrefix <+: k))
          (by simpa using hk), if_true, ← ih]
      · simp [listLoop, hk]

/-- Whether the loop keeps a suffix: all but a non-empty `from`. -/
def keeps (fromKey s : Bytes) : Bool := decide ¬ (0 < fromKey.length ∧ s = fromKey)

/-- Over keys that all extend the prefix, the loop keeps the first `max` suffixes other than
a non-empty `from`. -/
theorem listLoop_eq_take (fromKey keyPrefix : Bytes) {it : List Bytes}
    (hit : ∀ k ∈ it, keyPrefix <+: k) (max : Int) (hmax : 1 ≤ max) :
  listLoop fromKey keyPrefix max it
    = ((it.map (·.drop keyPrefix.length)).filter (keeps fromKey)).take max.toNat
  := by
  induction it generalizing max with
  | nil => simp [listLoop]
  | cons k it ih =>
      have hrest := ih (fun y hy => hit y (.tail _ hy))
      have hdec : decrement max = max - 1 := by unfold decrement; split <;> omega
      by_cases hskip : 0 < fromKey.length ∧ k.drop keyPrefix.length = fromKey
      · simp [listLoop, hit k (.head _), hskip, keeps, hrest max hmax]
      · have hkeep : keeps fromKey (k.drop keyPrefix.length) = true := by
          simp only [keeps, decide_eq_true_eq]
          exact hskip
        by_cases hone : max = 1
        · subst hone
          simp [listLoop, hit k (.head _), hskip, hkeep, decrement]
        · have htake : max.toNat = (max - 1).toNat + 1 := by omega
          have hlt : ¬ max - 1 < 1 := by omega
          simp only [listLoop, hit k (.head _), if_true, hskip, if_false, hdec, hlt, List.map_cons,
            List.filter_cons, hkeep, htake, List.take_succ_cons, hrest (max - 1) (by omega)]

/-- Stripping the prefix turns the order of the keys that extend it into the order of
their suffixes. -/
theorem map_drop_filter (keys : List Bytes) (keyPrefix fromKey : Bytes) :
  (keys.filter fun k => decide (keyPrefix <+: k ∧ ¬ Bytes.Lt k (keyPrefix ++ fromKey))).map
      (·.drop keyPrefix.length)
    = ((keys.filter fun k => decide (keyPrefix <+: k)).map (·.drop keyPrefix.length)).filter
      fun x => decide ¬ Bytes.Lt x fromKey
  := by
  rw [List.filter_map, List.filter_filter]
  congr 1
  refine List.filter_congr fun k _ => ?_
  by_cases hp : keyPrefix <+: k
  · obtain ⟨u, rfl⟩ := hp
    simp [Bytes.append_lt_append_iff]
  · simp [hp]

/-- The suffixes after a prefix are in ascending order, each once. -/
theorem suffixes_sorted (db : Db) (keyPrefix : Bytes) :
  (suffixes db keyPrefix).Sorted Bytes.Lt
  := by
  unfold suffixes
  rw [List.Sorted, List.pairwise_map]
  refine (db.sorted.filter _).imp_of_mem fun ha hb hab => ?_
  obtain ⟨u, rfl⟩ : _ <+: _ := by simpa using (List.mem_filter.mp ha).2
  obtain ⟨v, rfl⟩ : _ <+: _ := by simpa using (List.mem_filter.mp hb).2
  simpa [Bytes.append_lt_append_iff] using hab

/-- The suffixes `List` may return from `from` on: those at or after `from`, a non-empty
`from` itself left out. -/
def candidates (db : Db) (fromKey keyPrefix : Bytes) : List Bytes :=
  (suffixes db keyPrefix).filter fun x =>
    decide (¬ Bytes.Lt x fromKey ∧ ¬ (0 < fromKey.length ∧ x = fromKey))

theorem candidates_sorted (db : Db) (fromKey keyPrefix : Bytes) :
  (candidates db fromKey keyPrefix).Sorted Bytes.Lt
  := (suffixes_sorted db keyPrefix).filter _

/-- `List` with `max ≥ 1` is the first `max` candidates. -/
theorem list_eq_take (s : Scrutinizer) {max : Int} (hmax : 1 ≤ max) (fromKey keyPrefix : Bytes) :
  s.list max fromKey keyPrefix = (candidates s.storage fromKey keyPrefix).take max.toNat
  := by
  have hvisit := seek_takeWhile_eq_filter s.storage (List.prefix_append keyPrefix fromKey)
  rw [list, listLoop_takeWhile, hvisit, listLoop_eq_take _ _ (fun k hk => by
      simp only [List.mem_filter, decide_eq_true_eq] at hk
      exact hk.2.1) max hmax,
    map_drop_filter, List.filter_filter, candidates]
  congr 2
  funext x
  simp [keeps, Bool.and_comm]

/-- From an empty `from`, every suffix is a candidate. -/
theorem candidates_nil (db : Db) (keyPrefix : Bytes) :
  candidates db [] keyPrefix = suffixes db keyPrefix
  := List.filter_eq_self.mpr fun x _ => by simp [Bytes.not_lt_nil x]

/-! ### What `List` returns -/

/-- For every store, prefix, `from` and `max ≥ 1`, `List(max, from, prefix)` returns, in
ascending byte order, the first `min max N` of the `N` candidates: the suffixes `x` with
`prefix ++ x` stored and `from ≤ x`, `from` itself left out when it is not empty. In
particular the entity count `NewScrutinizer` rebuilds with `max = maxInt` is the number of
stored keys with the entity prefix, for every store with at most `maxInt` of them. -/
theorem list_returns_first_candidates :
  (∀ (s : Scrutinizer) (max : Int) (fromKey keyPrefix : Bytes), 1 ≤ max →
    s.list max fromKey keyPrefix
        = (candidates s.storage fromKey keyPrefix).take
            (min max.toNat (candidates s.storage fromKey keyPrefix).length)
      ∧ (s.list max fromKey keyPrefix).Sorted Bytes.Lt) ∧
  (∀ (db : Db) (entityPrefix : UInt8),
    ((db.keys.filter fun k => decide ([entityPrefix] <+: k)).length : Int) ≤ maxInt →
    (newScrutinizer db entityPrefix).entityCount
      = (db.keys.filter fun k => decide ([entityPrefix] <+: k)).length)
  := by
  refine ⟨fun s max fromKey keyPrefix hmax => ?_, fun db entityPrefix hcount => ?_⟩
  · rw [list_eq_take s hmax, ← List.take_take, List.take_length]
    exact ⟨rfl, (candidates_sorted _ _ _).take⟩
  · have hlist :=
      list_eq_take ⟨db, [], [], [], 0⟩ (by decide : (1 : Int) ≤ maxInt) [] [entityPrefix]
    simp only [newScrutinizer, hlist, candidates_nil, suffixes, List.length_take, List.length_map]
    unfold maxInt at hcount ⊢
    omega

/-- `List` on a three-key store, from an empty `from` with `max = 1`, and the entity count
of the same store. -/
theorem list_returns_first_candidates_sample :
  let db : Db := ⟨[[1, 5], [1, 7], [2]], by decide⟩
  let s : Scrutinizer := ⟨db, [], [], [], 0⟩
  ((1 : Int) ≤ 1 ∧ s.list 1 [] [1] = (candidates db [] [1]).take
      (min (1 : Int).toNat (candidates db [] [1]).length) ∧ (s.list 1 [] [1]).Sorted Bytes.Lt) ∧
  (((db.keys.filter fun k => decide ([1] <+: k)).length : Int) ≤ maxInt ∧
    (newScrutinizer db 1).entityCount = (db.keys.filter fun k => decide ([1] <+: k)).length)
  := ⟨⟨by decide, list_returns_first_candidates.1 _ 1 [] [1] (by decide)⟩,
    ⟨by decide, list_returns_first_candidates.2 _ 1 (by decide)⟩⟩

end Scrutinizer
