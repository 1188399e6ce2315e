import Mathlib.Data.List.Forall2
import RouterAdvert.Proofs.Config.Faults
import RouterAdvert.Proofs.Prefix.Overlap
import RouterAdvert.Proofs.Prefix.Text

/-!
# Entries judged one by one

Whether an entry is taken depends on its own text and on the ranges that were taken before it. The
verdicts on all entries say what validation reports, as it keeps the ranges that it accepts together
with their indices.
-/

namespace RouterAdvert

def refusals {α : Type} (index : Nat) : List (Except Error α) → List (Nat × Error)
  | [] => []
  | .ok _ :: rest => refusals (index + 1) rest
  | .error e :: rest => (index, e) :: refusals (index + 1) rest

/-- What a series comes to that stops at the first error. -/
def stopping {α : Type} : List (Except Error α) → Except Error Unit
  | [] => .ok ()
  | .ok _ :: rest => stopping rest
  | .error e :: _ => .error e

section

variable {α : Type}

theorem refusals_map {β : Type} (f : α → β) (index : Nat) (results : List (Except Error α)) :
    refusals index (results.map (·.map f)) = refusals index results := by
  induction results generalizing index with
  | nil => rfl
  | cons result rest ih =>
    cases result with
    | ok x => exact ih (index + 1)
    | error e => exact congrArg (List.cons (index, e)) (ih (index + 1))

theorem stopping_map {β : Type} (f : α → β) (results : List (Except Error α)) :
    stopping (results.map (·.map f)) = stopping results := by
  induction results with
  | nil => rfl
  | cons result rest ih =>
    cases result with
    | ok x => exact ih
    | error e => rfl

theorem le_of_mem_refusals {index : Nat} {results : List (Except Error α)} {r : Nat × Error}
    (h : r ∈ refusals index results) : index ≤ r.1 := by
  induction results generalizing index with
  | nil => cases h
  | cons result rest ih =>
    cases result with
    | ok x => exact Nat.le_of_succ_le (ih h)
    | error e =>
      rcases List.mem_cons.mp h with rfl | hlater
      · exact Nat.le_refl _
      · exact Nat.le_of_succ_le (ih hlater)

theorem pairwise_refusals (index : Nat) (results : List (Except Error α)) :
    (refusals index results).Pairwise fun a b => a.1 < b.1 := by
  induction results generalizing index with
  | nil => exact .nil
  | cons result rest ih =>
    cases result with
    | ok x => exact ih (index + 1)
    | error e => exact .cons (fun r hr => le_of_mem_refusals hr) (ih (index + 1))

theorem length_refusals (index : Nat) (results : List (Except Error α)) :
    (refusals index results).length + (results.filterMap Except.toOption).length =
      results.length := by
  induction results generalizing index with
  | nil => rfl
  | cons result rest ih =>
    have hrest := ih (index + 1)
    cases result with
    | ok x =>
      simp only [refusals, List.filterMap_cons, Except.toOption, List.length_cons]
      omega
    | error e =>
      simp only [refusals, List.filterMap_cons, Except.toOption, List.length_cons]
      omega

theorem stopping_of_refusals_nil {index : Nat} {results : List (Except Error α)}
    (h : refusals index results = []) : stopping results = .ok () := by
  induction results generalizing index with
  | nil => rfl
  | cons result rest ih =>
    cases result with
    | ok x => exact ih h
    | error e => cases h

theorem stopping_take {index i : Nat} {e : Error} {results : List (Except Error α)}
    {others : List (Nat × Error)} (h : refusals index results = (index + i, e) :: others) (n : Nat) :
    stopping (results.take n) = if i < n then .error e else .ok () := by
  induction results generalizing index i n with
  | nil => cases h
  | cons result rest ih =>
    cases n with
    | zero => rfl
    | succ n =>
      cases result with
      | ok x =>
        have hrest : refusals (index + 1) rest = (index + i, e) :: others := h
        have hlater : index + 1 ≤ index + i := le_of_mem_refusals (hrest ▸ List.mem_cons_self)
        obtain ⟨i, rfl⟩ : ∃ k, i = k + 1 := ⟨i - 1, by omega⟩
        have hplace : index + (i + 1) = index + 1 + i := by omega
        rw [hplace] at hrest
        simpa only [List.take_succ_cons, stopping, Nat.add_lt_add_iff_right] using ih hrest n
      | error found =>
        obtain ⟨hplace, -⟩ := List.cons.inj h
        obtain ⟨hi, rfl⟩ := Prod.mk.inj hplace
        have hzero : i < n + 1 := by omega
        rw [if_pos hzero]
        rfl

theorem stopping_of_refusals_cons {i : Nat} {e : Error} {results : List (Except Error α)}
    {others : List (Nat × Error)} (h : refusals 0 results = (i, e) :: others) :
    stopping results = .error e := by
  have hplace : refusals 0 results = (0 + i, e) :: others := by rw [h, Nat.zero_add]
  have hstop := stopping_take hplace (results.length + (i + 1))
  rwa [List.take_of_length_le (Nat.le_add_right _ _), if_pos (by omega)] at hstop

end

namespace PrefixConfig

/-- What becomes of an entry when some ranges are taken. -/
def verdict (ranges : List Prefix) (entry : PrefixConfig) : Except Error Prefix :=
  match entry.usable with
  | .error e => .error e
  | .ok network =>
    match ranges.find? (·.overlaps network) with
    | some existing => .error (.overlap network existing)
    | none => .ok network

/-- What becomes of entries, where those that are taken add their ranges. -/
def verdicts (ranges : List Prefix) : List PrefixConfig → List (Except Error Prefix)
  | [] => []
  | entry :: rest =>
    verdict ranges entry :: verdicts (ranges ++ (verdict ranges entry).toOption.toList) rest

variable {ranges : List Prefix} {entry : PrefixConfig} {network : Prefix}

@[simp] theorem length_verdicts (ranges : List Prefix) (entries : List PrefixConfig) :
    (verdicts ranges entries).length = entries.length := by
  induction entries generalizing ranges with
  | nil => rfl
  | cons entry rest ih => rw [verdicts, List.length_cons, List.length_cons, ih]

theorem verdicts_take (ranges : List Prefix) (entries : List PrefixConfig) (n : Nat) :
    verdicts ranges (entries.take n) = (verdicts ranges entries).take n := by
  induction entries generalizing ranges n with
  | nil => simp [verdicts]
  | cons entry rest ih =>
    cases n with
    | zero => rfl
    | succ n => rw [List.take_succ_cons, verdicts, verdicts, List.take_succ_cons, ih]

theorem verdict_of_unusable {e : Error} (h : entry.usable = .error e) (ranges : List Prefix) :
    verdict ranges entry = .error e := by
  simp only [verdict, h]

theorem verdict_of_overlap (h : entry.usable = .ok network) {existing : Prefix}
    (hfind : ranges.find? (·.overlaps network) = some existing) :
    verdict ranges entry = .error (.overlap network existing) := by
  simp only [verdict, h, hfind]

theorem verdict_of_free (h : entry.usable = .ok network)
    (hfind : ranges.find? (·.overlaps network) = none) : verdict ranges entry = .ok network := by
  simp only [verdict, h, hfind]

theorem of_verdict_ok (h : verdict ranges entry = .ok network) :
    entry.usable = .ok network ∧ ∀ other ∈ ranges, other.overlaps network = false := by
  cases husable : entry.usable with
  | error e => cases (verdict_of_unusable husable ranges).symm.trans h
  | ok found =>
    cases hfind : ranges.find? (·.overlaps found) with
    | some existing => cases (verdict_of_overlap husable hfind).symm.trans h
    | none =>
      cases (verdict_of_free husable hfind).symm.trans h
      refine ⟨rfl, fun other hother => ?_⟩
      simpa using List.find?_eq_none.mp hfind other hother

theorem usable_of_getElem?_verdicts {entries : List PrefixConfig} {j : Nat}
    (h : (verdicts ranges entries)[j]? = some (.ok network)) :
    entries[j]?.map usable = some (.ok network) := by
  induction entries generalizing ranges j with
  | nil => cases h
  | cons entry rest ih =>
    cases j with
    | zero => exact congrArg some (of_verdict_ok (Option.some.inj h)).1
    | succ j => exact ih h

theorem getElem?_verdicts_of_unusable {entries : List PrefixConfig} {j : Nat} {e : Error}
    (h : entries[j]?.map usable = some (.error e)) :
    (verdicts ranges entries)[j]? = some (.error e) := by
  induction entries generalizing ranges j with
  | nil => cases h
  | cons entry rest ih =>
    cases j with
    | zero => exact congrArg some (verdict_of_unusable (Option.some.inj h) ranges)
    | succ j => exact ih h

theorem free_of_mem_verdicts {entries : List PrefixConfig} {other : Prefix} (hother : other ∈ ranges)
    (h : .ok network ∈ verdicts ranges entries) : other.overlaps network = false := by
  induction entries generalizing ranges with
  | nil => cases h
  | cons entry rest ih =>
    rcases List.mem_cons.mp h with hfirst | hlater
    · exact (of_verdict_ok hfirst.symm).2 other hother
    · exact ih (List.mem_append_left _ hother) hlater

theorem pairwise_verdicts (ranges : List Prefix) (entries : List PrefixConfig) :
    (verdicts ranges entries).Pairwise fun a b =>
      ∀ p q, a = .ok p → b = .ok q → p.overlaps q = false := by
  induction entries generalizing ranges with
  | nil => exact .nil
  | cons entry rest ih =>
    refine .cons ?_ (ih _)
    rintro _ hlater p q hp rfl
    refine free_of_mem_verdicts (List.mem_append_right ranges ?_) hlater
    rw [hp]
    exact List.mem_singleton_self p

theorem place_unique {entries : List PrefixConfig} {j k : Nat}
    (hj : (verdicts ranges entries)[j]? = some (.ok network))
    (hk : (verdicts ranges entries)[k]? = some (.ok network)) : j = k := by
  have hapart : ∀ {a b : Nat}, a < b → (verdicts ranges entries)[a]? = some (.ok network) →
      (verdicts ranges entries)[b]? ≠ some (.ok network) := by
    intro a b hlt ha hb
    obtain ⟨ha', hat⟩ := List.getElem?_eq_some_iff.mp ha
    obtain ⟨hb', hbt⟩ := List.getElem?_eq_some_iff.mp hb
    have hfree := List.pairwise_iff_getElem.mp (pairwise_verdicts ranges entries) a b ha' hb' hlt
      network network hat hbt
    rw [Prefix.overlaps_self] at hfree
    cases hfree
  rcases Nat.lt_trichotomy j k with hlt | heq | hgt
  · exact absurd hk (hapart hlt hj)
  · exact heq
  · exact absurd hj (hapart hgt hk)

def Taken (entries : List PrefixConfig) (results : List (Except Error Unit)) (j : Nat)
    (network : Prefix) : Prop :=
  results[j]? = some (.ok ()) ∧ entries[j]?.map usable = some (.ok network)

/-- What a fault says about an entry that is refused with an error. It repeats the error of a check
of the entry itself. For an overlap it gives the place of the entry that was taken with the range
which the error names; there is only one. The places and the range can be read back from its
text. -/
inductive Tells (entries : List PrefixConfig) (results : List (Except Error Unit)) :
    Nat × Error → Fault → Prop
  | unusable {i : Nat} {e : Error} {f : Fault}
      (check : entries[i]?.map usable = some (.error e)) (fault : f = .unusablePrefix i e)
      (text : f.message = "prefix[" ++ Numeral.decimal i ++ "]: " ++ e.message)
      (place : Numeral.read? 10 (Numeral.decimal i).toList = some i) : Tells entries results (i, e) f
  | overlap {i j : Nat} {network existing : Prefix} {f : Fault}
      (check : entries[i]?.map usable = some (.ok network)) (earlier : j < i)
      (taken : Taken entries results j existing)
      (only : ∀ k, Taken entries results k existing → k = j)
      (fault : f = .overlappingPrefix i network j)
      (text : f.message = "prefix[" ++ Numeral.decimal i ++ "]: " ++ network.text
        ++ " overlaps prefix[" ++ Numeral.decimal j ++ "]")
      (places : ∀ k ∈ [i, j], Numeral.read? 10 (Numeral.decimal k).toList = some k)
      (range : Prefix.read network.text = .ok network) :
      Tells entries results (i, .overlap network existing) f

/-- How far entries were judged: what is left of them, the verdicts ahead, and the ranges that were
accepted behind, each with its index. -/
structure Judged (entries : List PrefixConfig) (accepted : List (Nat × Prefix)) (index : Nat)
    (rest : List PrefixConfig) : Prop where
  left : entries.drop index = rest
  ahead : (verdicts [] entries).drop index = verdicts (accepted.map (·.2)) rest
  behind : ∀ j network, (j, network) ∈ accepted ↔
    j < index ∧ (verdicts [] entries)[j]? = some (.ok network)

theorem judged_start (entries : List PrefixConfig) : Judged entries [] 0 entries where
  left := rfl
  ahead := rfl
  behind := by simp

section

variable {entries rest : List PrefixConfig} {accepted : List (Nat × Prefix)} {index : Nat}

theorem Judged.getElem?_index (h : Judged entries accepted index (entry :: rest)) :
    entries[index]? = some entry ∧
      (verdicts [] entries)[index]? = some (verdict (accepted.map (·.2)) entry) := by
  have hentry : (entries.drop index)[0]? = some entry := by rw [h.left]; rfl
  have hverdict : ((verdicts [] entries).drop index)[0]? =
      some (verdict (accepted.map (·.2)) entry) := by
    rw [h.ahead]
    rfl
  rw [List.getElem?_drop, Nat.add_zero] at hentry hverdict
  exact ⟨hentry, hverdict⟩

theorem Judged.next (h : Judged entries accepted index (entry :: rest)) :
    Judged entries (accepted ++
      ((verdict (accepted.map (·.2)) entry).toOption.map (index, ·)).toList) (index + 1) rest where
  left := by rw [← List.tail_drop, h.left, List.tail_cons]
  ahead := by
    rw [← List.tail_drop, h.ahead, verdicts, List.tail_cons, List.map_append]
    cases verdict (accepted.map (·.2)) entry <;> rfl
  behind := by
    intro j network
    have hhere := h.getElem?_index.2
    rw [List.mem_append, h.behind, Nat.lt_succ_iff_lt_or_eq]
    constructor
    · rintro (⟨hlt, hj⟩ | hnew)
      · exact ⟨.inl hlt, hj⟩
      · cases hverdict : verdict (accepted.map (·.2)) entry with
        | error e => simp [hverdict, Except.toOption] at hnew
        | ok found =>
          simp only [hverdict, Except.toOption, Option.map_some, Option.toList_some,
            List.mem_singleton, Prod.mk.injEq] at hnew
          obtain ⟨rfl, rfl⟩ := hnew
          exact ⟨.inr rfl, hverdict ▸ hhere⟩
    · rintro ⟨hlt | rfl, hj⟩
      · exact .inl ⟨hlt, hj⟩
      · right
        rw [hhere, Option.some.injEq] at hj
        simp [hj, Except.toOption]

theorem taken_iff {j : Nat} :
    Taken entries ((verdicts [] entries).map (·.map fun _ => ())) j network ↔
      (verdicts [] entries)[j]? = some (.ok network) := by
  rw [Taken, List.getElem?_map]
  constructor
  · rintro ⟨hresult, husable⟩
    obtain ⟨found, hfound, hok⟩ := Option.map_eq_some_iff.mp hresult
    cases found with
    | error e => cases hok
    | ok p =>
      cases (usable_of_getElem?_verdicts hfound).symm.trans husable
      exact hfound
  · intro h
    exact ⟨by rw [h]; rfl, usable_of_getElem?_verdicts h⟩

theorem Judged.forall₂_tells (h : Judged entries accepted index rest) :
    List.Forall₂ (Tells entries ((verdicts [] entries).map (·.map fun _ => ())))
      (refusals index (verdicts (accepted.map (·.2)) rest)) (findings accepted index rest).faults := by
  induction rest generalizing accepted index with
  | nil => exact .nil
  | cons entry rest ih =>
    have hrest := ih h.next
    have hcheck : entries[index]?.map usable = some entry.usable := by
      rw [h.getElem?_index.1]
      rfl
    rw [verdicts]
    cases husable : entry.usable with
    | error e =>
      rw [husable] at hcheck
      simp only [verdict_of_unusable husable, Except.toOption, Option.map_none, Option.toList_none,
        List.append_nil] at hrest ⊢
      rw [faults_of_unusable husable]
      exact .cons (.unusable hcheck rfl rfl (Numeral.read?_decimal index)) hrest
    | ok network =>
      rw [husable] at hcheck
      have hfind : (accepted.map (·.2)).find? (·.overlaps network) =
          (accepted.find? fun other => other.2.overlaps network).map (·.2) := List.find?_map
      cases hfound : accepted.find? (fun other => other.2.overlaps network) with
      | some found =>
        obtain ⟨j, existing⟩ := found
        have hoverlap : (accepted.map (·.2)).find? (·.overlaps network) = some existing :=
          hfind.trans (congrArg (Option.map (·.2)) hfound)
        simp only [verdict_of_overlap husable hoverlap, Except.toOption, Option.map_none,
          Option.toList_none, List.append_nil] at hrest ⊢
        rw [faults_of_overlap_at husable hfound]
        obtain ⟨hearlier, hj⟩ := (h.behind j existing).mp (List.mem_of_find?_eq_some hfound)
        exact .cons (.overlap hcheck hearlier (taken_iff.mpr hj)
          (fun k hk => place_unique (taken_iff.mp hk) hj) rfl rfl
          (fun k _ => Numeral.read?_decimal k) network.read_text) hrest
      | none =>
        have hfree : (accepted.map (·.2)).find? (·.overlaps network) = none :=
          hfind.trans (congrArg (Option.map (·.2)) hfound)
        simp only [verdict_of_free husable hfree, Except.toOption, Option.map_some,
          Option.toList_some, List.map_append, List.map_singleton] at hrest ⊢
        rw [faults_of_free husable (fun other hother => by
          simpa using List.find?_eq_none.mp hfree other hother)]
        exact hrest

end

end PrefixConfig

end RouterAdvert
