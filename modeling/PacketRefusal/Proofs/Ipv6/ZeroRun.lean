import PacketRefusal.Ipv6.Address
import Mathlib.Data.List.TakeWhile

/-!
# The run of zeros that an address leaves out

`longestZeroRun` tries every group of an address as the start of a run and keeps the longest run
that it has seen. What holds of the run that is kept after a number of trials (`FirstLongest`) is
preserved by one more trial (`FirstLongest.trial`) and so holds at the end: no run of zeros is
longer, and every earlier one is shorter (`firstLongest_longestZeroRun`). The groups of an address
are therefore those in front of the run, as many zeros as the run is long, and those behind it
(`eq_around_longestZeroRun`).
-/

set_option autoImplicit false
set_option relaxedAutoImplicit false

namespace PacketRefusal.Ipv6

variable {groups : List Nat}

/-- A run of zeros that is the longest of those that start at one of the first `count` groups, and
of several of that length the first. -/
structure FirstLongest (groups : List Nat) (count : Nat) (run : Run) : Prop where
  zeros : run.length ≤ leadingZeros (groups.drop run.start)
  longest : ∀ start < count, leadingZeros (groups.drop start) ≤ run.length
  first : ∀ start < run.start, leadingZeros (groups.drop start) < run.length

/-- One more group is tried as the start of a run. -/
theorem FirstLongest.trial {count : Nat} {best : Run} (hbest : FirstLongest groups count best) :
    FirstLongest groups (count + 1)
      (if best.length < leadingZeros (groups.drop count) then
        ⟨count, leadingZeros (groups.drop count)⟩ else best) := by
  split
  · next hlonger =>
    refine ⟨Nat.le_refl _, fun start hbelow ↦ ?_, fun start hbelow ↦ ?_⟩
    · rcases Nat.lt_succ_iff_lt_or_eq.mp hbelow with hbelow | rfl
      · exact Nat.le_of_lt (Nat.lt_of_le_of_lt (hbest.longest start hbelow) hlonger)
      · exact Nat.le_refl _
    · exact Nat.lt_of_le_of_lt (hbest.longest start hbelow) hlonger
  · next hshorter =>
    refine ⟨hbest.zeros, fun start hbelow ↦ ?_, hbest.first⟩
    rcases Nat.lt_succ_iff_lt_or_eq.mp hbelow with hbelow | rfl
    · exact hbest.longest start hbelow
    · exact Nat.le_of_not_lt hshorter

/-- The run that is kept is the first of the longest ones, whatever the groups are. -/
theorem firstLongest_longestZeroRun (groups : List Nat) :
    FirstLongest groups groups.length (longestZeroRun groups) := by
  unfold longestZeroRun
  induction groups.length with
  | zero => exact ⟨Nat.zero_le _, by simp, by simp⟩
  | succ count ih =>
    rw [List.range_succ, List.foldl_append]
    exact ih.trial

example : longestZeroRun [1, 0, 0, 2, 0, 0, 0, 0] = ⟨4, 4⟩ := by decide

example : longestZeroRun [1, 0, 0, 2, 0, 0, 3, 4] = ⟨1, 2⟩ := by decide

/-- The zeros at the front of a list are written out. -/
theorem take_leadingZeros {count : Nat} (hcount : count ≤ leadingZeros groups) :
    groups.take count = List.replicate count 0 := by
  have hfront : groups.takeWhile (· == 0) = List.replicate (leadingZeros groups) 0 :=
    List.eq_replicate_iff.mpr
      ⟨rfl, fun group hgroup ↦ by simpa using List.mem_takeWhile_imp hgroup⟩
  have hprefix : groups.take (leadingZeros groups) = List.replicate (leadingZeros groups) 0 := by
    rw [← hfront]
    exact (List.prefix_iff_eq_take.mp (List.takeWhile_prefix _)).symm
  rw [← Nat.min_eq_left hcount, ← List.take_take, hprefix, List.take_replicate]

/-- What surrounds the run that is left out, with the zeros of the run between, are all groups. -/
theorem eq_around_longestZeroRun (groups : List Nat) :
    groups = groups.take (longestZeroRun groups).start ++
      (List.replicate (longestZeroRun groups).length 0 ++
        groups.drop ((longestZeroRun groups).start + (longestZeroRun groups).length)) := by
  have hzeros : (groups.drop (longestZeroRun groups).start).take (longestZeroRun groups).length =
      List.replicate (longestZeroRun groups).length 0 :=
    take_leadingZeros (firstLongest_longestZeroRun groups).zeros
  rw [← hzeros, ← List.drop_drop, List.take_append_drop, List.take_append_drop]

end PacketRefusal.Ipv6
