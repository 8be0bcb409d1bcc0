import Swfpm.AutoCal.Stages
import Swfpm.Support.BestOfFamilies

/-!
# The discovery finalists

The arrays of finalist profiles and metrics, cell by cell and as one list.
Moving cells down takes an entry out of the list, moving them up makes room for
one, and so an insertion keeps the best families of what was considered.
-/

namespace Swfpm.AutoCal

open BestOfFamilies

/-! ## Moving cells -/

theorem moveDown_spec {α : Type*} (steps move : ℕ) (cells : List α)
    (hbound : move + steps < cells.length) :
    ∃ out, moveDown steps move cells = some out ∧ out.length = cells.length ∧
      ∀ k, out[k]? =
        if move ≤ k ∧ k < move + steps then cells[k + 1]? else cells[k]? := by
  induction steps generalizing move cells with
  | zero =>
      refine ⟨cells, rfl, rfl, fun k ↦ ?_⟩
      rw [if_neg (by omega)]
  | succ steps ih =>
      have hnext : move + 1 < cells.length := by omega
      obtain ⟨out, hout, hlength, hcells⟩ := ih (move + 1)
        (cells.set move cells[move + 1]) (by rw [List.length_set]; omega)
      refine ⟨out, ?_, by rw [hlength, List.length_set], fun k ↦ ?_⟩
      · rw [moveDown, List.getElem?_eq_getElem hnext, Option.bind_some, hout]
      · rw [hcells k]
        by_cases hfirst : k = move
        · subst hfirst
          rw [if_neg (by omega), if_pos (by omega),
            List.getElem?_set_self (by omega), List.getElem?_eq_getElem hnext]
        · rw [List.getElem?_set_ne (Ne.symm hfirst)]
          split_ifs with hlate hall hall
          · rw [List.getElem?_set_ne (by omega)]
          · omega
          · omega
          · rfl

theorem moveUp_spec {α : Type*} (steps : ℕ) {i : ℕ} (cells : List α)
    (hi : i < cells.length) (hsteps : steps ≤ i) :
    ∃ out, moveUp steps i cells = some out ∧ out.length = cells.length ∧
      ∀ k, out[k]? =
        if i - steps < k ∧ k ≤ i then cells[k - 1]? else cells[k]? := by
  induction steps generalizing i cells with
  | zero =>
      refine ⟨cells, rfl, rfl, fun k ↦ ?_⟩
      rw [if_neg (by omega)]
  | succ steps ih =>
      have hbefore : i - 1 < cells.length := by omega
      obtain ⟨out, hout, hlength, hcells⟩ := ih
        (cells.set i cells[i - 1]) (i := i - 1) (by rw [List.length_set]; omega) (by omega)
      refine ⟨out, ?_, by rw [hlength, List.length_set], fun k ↦ ?_⟩
      · rw [moveUp, if_neg (by omega), List.getElem?_eq_getElem hbefore,
          Option.bind_some, hout]
      · rw [hcells k]
        by_cases hlast : k = i
        · subst hlast
          rw [if_neg (by omega), if_pos (by omega), List.getElem?_set_self hi,
            List.getElem?_eq_getElem hbefore]
        · rw [List.getElem?_set_ne (Ne.symm hlast)]
          split_ifs with hlate hall hall
          · rw [List.getElem?_set_ne (by omega)]
          · omega
          · omega
          · rfl

/-- What is left of the first cells once one of them was taken out. -/
theorem take_moveDown {α : Type*} {count i : ℕ} (cells : List α) (hi : i < count)
    (hcount : count ≤ cells.length) :
    ∃ out, moveDown (count - 1 - i) i cells = some out ∧
      out.length = cells.length ∧
      out.take (count - 1) = (cells.take count).eraseIdx i := by
  obtain ⟨out, hout, hlength, hcells⟩ :=
    moveDown_spec (count - 1 - i) i cells (by omega)
  refine ⟨out, hout, hlength, List.ext_getElem? fun k ↦ ?_⟩
  rw [List.getElem?_take, List.getElem?_eraseIdx, List.getElem?_take,
    List.getElem?_take, hcells k]
  split_ifs <;> first | rfl | omega

/-- The first cells once an entry was put among them. -/
theorem insertAt_spec {α : Type*} {count place : ℕ} (entry : α)
    (cells : List α) (hplace : place < count) (hcount : count ≤ cells.length) :
    ∃ out, insertAt count place entry cells = some out ∧
      out.length = cells.length ∧
      out.take count = (cells.take (count - 1)).insertIdx place entry := by
  obtain ⟨room, hroom, hlength, hcells⟩ := moveUp_spec (count - 1 - place)
    (i := count - 1) cells (by omega) (by omega)
  refine ⟨room.set place entry, ?_, by rw [List.length_set, hlength],
    List.ext_getElem? fun k ↦ ?_⟩
  · rw [insertAt, hroom, Option.bind_some, if_neg (by omega)]
  · rw [List.getElem?_take, List.getElem?_insertIdx, List.length_take,
      List.getElem?_take, List.getElem?_take]
    by_cases hhere : k = place
    · subst hhere
      rw [if_pos hplace, List.getElem?_set_self (by omega), if_neg (by omega),
        if_pos rfl, if_pos (by omega)]
    · rw [List.getElem?_set_ne (Ne.symm hhere), hcells k]
      split_ifs <;> first | rfl | omega

/-! ## Two arrays as one list -/

section Pairs

variable {α β φ : Type*}

theorem zip_insertIdx {xs : List α} {ys : List β} (hlength : xs.length = ys.length)
    (i : ℕ) (x : α) (y : β) :
    (xs.insertIdx i x).zip (ys.insertIdx i y) =
      (xs.zip ys).insertIdx i (x, y) := by
  induction xs generalizing ys i with
  | nil =>
      obtain rfl := List.length_eq_zero_iff.mp hlength.symm
      cases i <;> rfl
  | cons first xs ih =>
      obtain ⟨second, ys, rfl⟩ := List.exists_cons_of_length_eq_add_one hlength.symm
      cases i with
      | zero => rfl
      | succ i =>
          rw [List.insertIdx_succ_cons, List.insertIdx_succ_cons,
            List.zip_cons_cons, List.zip_cons_cons, List.insertIdx_succ_cons,
            ih (by simpa using hlength)]

theorem zip_eraseIdx {xs : List α} {ys : List β} (hlength : xs.length = ys.length)
    (i : ℕ) :
    (xs.eraseIdx i).zip (ys.eraseIdx i) = (xs.zip ys).eraseIdx i := by
  induction xs generalizing ys i with
  | nil =>
      obtain rfl := List.length_eq_zero_iff.mp hlength.symm
      rfl
  | cons first xs ih =>
      obtain ⟨second, ys, rfl⟩ := List.exists_cons_of_length_eq_add_one hlength.symm
      cases i with
      | zero => rfl
      | succ i =>
          rw [List.eraseIdx_cons_succ, List.eraseIdx_cons_succ,
            List.zip_cons_cons, List.zip_cons_cons, List.eraseIdx_cons_succ,
            ih (by simpa using hlength)]

theorem insertIdx_findIdx (stops : α → Bool) (entry : α) (kept : List α) :
    kept.insertIdx (kept.findIdx stops) entry =
      kept.takeWhile (!stops ·) ++ entry :: kept.dropWhile (!stops ·) := by
  induction kept with
  | nil => rfl
  | cons held kept ih =>
      rw [List.findIdx_cons, List.takeWhile_cons, List.dropWhile_cons]
      cases stops held with
      | true => rfl
      | false =>
          rw [cond_false, List.insertIdx_succ_cons, ih]
          rfl

/-- Where no family stands twice, the found entry is all there is of it. -/
theorem eraseIdx_findIdx? [DecidableEq φ] (family : α → φ) {kept : List α}
    {wanted : φ} {i : ℕ} (hnodup : (kept.map family).Nodup)
    (hfind : kept.findIdx? (fun held ↦ family held = wanted) = some i) :
    kept.eraseIdx i = kept.filter fun held ↦ family held ≠ wanted := by
  induction kept generalizing i with
  | nil => cases hfind
  | cons held kept ih =>
      rw [List.map_cons, List.nodup_cons] at hnodup
      rw [List.findIdx?_cons] at hfind
      by_cases hfamily : family held = wanted
      · rw [if_pos (decide_eq_true hfamily), Option.some.injEq] at hfind
        subst hfind
        have hothers : ∀ other ∈ kept, family other ≠ wanted := by
          intro other hother hsame
          exact hnodup.1 (List.mem_map.mpr ⟨other, hother, hsame.trans hfamily.symm⟩)
        rw [List.eraseIdx_cons_zero, List.filter_cons, if_neg (by simpa using hfamily),
          List.filter_eq_self.mpr fun other hother ↦
            decide_eq_true (hothers other hother)]
      · rw [if_neg (by simpa using hfamily)] at hfind
        obtain ⟨j, hj, rfl⟩ := Option.map_eq_some_iff.mp hfind
        rw [List.eraseIdx_cons_succ, ih hnodup.2 hj, List.filter_cons,
          if_pos (by simpa using hfamily)]

/-- What is cut off after an insertion could have been cut off before it. -/
theorem take_succ_insertIdx {place n : ℕ} (hplace : place ≤ n)
    (entry : α) (kept : List α) (hkept : place ≤ kept.length) :
    (kept.insertIdx place entry).take (n + 1) =
      (kept.take n).insertIdx place entry := by
  refine List.ext_getElem? fun k ↦ ?_
  rw [List.getElem?_take, List.getElem?_insertIdx, List.getElem?_insertIdx,
    List.length_take, List.getElem?_take, List.getElem?_take]
  split_ifs <;> first | rfl | omega

end Pairs

/-! ## The finalists of a calibrator -/

/-- A candidate that was considered: its profile and its metrics. -/
abbrev Finalist := Max35103Profile × Max35103AutoCalMetrics

/-- Profiles of one family share their launch word. -/
def finalistFamily (finalist : Finalist) : UInt16 := finalist.1.tof1

def finalistScore (finalist : Finalist) : ℕ := finalist.2.score.toNat

/-- The first cells of both arrays. -/
def firstFinalists (calibrator : Max35103AutoCalibrator) (count : ℕ) :
    List Finalist :=
  (calibrator.discoveryFinalistProfiles.take count).zip
    (calibrator.discoveryFinalistMetrics.take count)

def finalists (calibrator : Max35103AutoCalibrator) : List Finalist :=
  firstFinalists calibrator calibrator.discoveryFinalistCount.toNat

/-- The arrays have their sizes. -/
structure Arrays (calibrator : Max35103AutoCalibrator) : Prop where
  profiles : calibrator.discoveryFinalistProfiles.length = 4
  metrics : calibrator.discoveryFinalistMetrics.length = 4
  count : calibrator.discoveryFinalistCount.toNat ≤ 4

section Insertion

variable {calibrator after : Max35103AutoCalibrator}

/-- Only the finalists change. -/
theorem insertByScore_frame {count : ℕ} {profile : Max35103Profile}
    {metrics : Max35103AutoCalMetrics}
    (hout : insertByScore calibrator count profile metrics = some after) :
    ∃ profiles finalistMetrics size, after = { calibrator with
      discoveryFinalistProfiles := profiles
      discoveryFinalistMetrics := finalistMetrics
      discoveryFinalistCount := size } := by
  simp only [insertByScore] at hout
  split_ifs at hout
  · exact ⟨_, _, _, (Option.some.inj hout).symm⟩
  all_goals
    simp only [Option.bind_eq_some_iff, Option.map_eq_some_iff] at hout
    obtain ⟨profiles, -, finalistMetrics, -, rfl⟩ := hout
    exact ⟨_, _, _, rfl⟩

theorem insertDiscoveryFinalist_frame {profile : Max35103Profile}
    {metrics : Max35103AutoCalMetrics}
    (hout : insertDiscoveryFinalist calibrator profile metrics = some after) :
    ∃ profiles finalistMetrics size, after = { calibrator with
      discoveryFinalistProfiles := profiles
      discoveryFinalistMetrics := finalistMetrics
      discoveryFinalistCount := size } := by
  simp only [insertDiscoveryFinalist] at hout
  split at hout
  · exact insertByScore_frame hout
  · simp only [Option.bind_eq_some_iff] at hout
    obtain ⟨held, -, hout⟩ := hout
    split_ifs at hout
    · exact ⟨_, _, _, (Option.some.inj hout).symm⟩
    · simp only [Option.bind_eq_some_iff] at hout
      obtain ⟨profiles, -, finalistMetrics, -, hout⟩ := hout
      obtain ⟨last, lastMetrics, size, rfl⟩ := insertByScore_frame hout
      exact ⟨_, _, _, rfl⟩

theorem Arrays.length (harrays : Arrays calibrator) {count : ℕ}
    (hcount : count ≤ 4) : (firstFinalists calibrator count).length = count := by
  rw [firstFinalists, List.length_zip, List.length_take, List.length_take,
    harrays.profiles, harrays.metrics]
  omega

theorem firstFinalists_snd (harrays : Arrays calibrator) (count : ℕ) :
    (firstFinalists calibrator count).map Prod.snd =
      calibrator.discoveryFinalistMetrics.take count := by
  rw [firstFinalists, List.map_snd_zip]
  rw [List.length_take, List.length_take, harrays.profiles, harrays.metrics]

theorem firstFinalists_fst (harrays : Arrays calibrator) (count : ℕ) :
    (firstFinalists calibrator count).map Prod.fst =
      calibrator.discoveryFinalistProfiles.take count := by
  rw [firstFinalists, List.map_fst_zip]
  rw [List.length_take, List.length_take, harrays.profiles, harrays.metrics]

/-- The place that the code finds is where the insertion by score puts it. -/
theorem insertScore_eq_insertIdx (entry : Finalist) (kept : List Finalist) :
    insertScore finalistScore 4 entry kept =
      (kept.insertIdx
        (kept.findIdx fun held ↦ entry.2.score < held.2.score) entry).take 4 := by
  have hpasses : (fun held : Finalist ↦
      decide (finalistScore held ≤ finalistScore entry)) =
        fun held ↦ !decide (entry.2.score < held.2.score) := by
    funext held
    rw [← decide_not, decide_eq_decide, UInt64.lt_iff_toNat_lt, not_lt]
    rfl
  rw [insertScore, hpasses, insertIdx_findIdx]

/-- The place that the code finds, in the list of the finalists. -/
theorem place_eq (harrays : Arrays calibrator) {count : ℕ} (hcount : count ≤ 4)
    (score : UInt64) :
    ((calibrator.discoveryFinalistMetrics.take count).findIdx?
        fun held ↦ score < held.score).getD count =
      (firstFinalists calibrator count).findIdx
        fun held ↦ score < held.2.score := by
  rw [← firstFinalists_snd harrays, List.findIdx?_map, List.findIdx_eq_getD_findIdx?,
    harrays.length hcount]
  rfl

theorem insertByScore_finalists (harrays : Arrays calibrator) {count : ℕ}
    (hcount : count ≤ 4)
    (hheld : count = calibrator.discoveryFinalistCount.toNat ∨ count < 4)
    (profile : Max35103Profile) (metrics : Max35103AutoCalMetrics) :
    ∃ after, insertByScore calibrator count profile metrics = some after ∧
      Arrays after ∧
      finalists after = insertScore finalistScore 4 (profile, metrics)
        (firstFinalists calibrator count) := by
  have hfour : discoveryFinalists.toNat = 4 := rfl
  have hlength := harrays.length hcount
  have hplace := place_eq harrays hcount metrics.score
  have hbound : (firstFinalists calibrator count).findIdx
      (fun held ↦ decide (metrics.score < held.2.score)) ≤
        (firstFinalists calibrator count).length := List.findIdx_le_length
  rw [insertScore_eq_insertIdx]
  simp only [insertByScore, hfour, hplace]
  generalize hat : (firstFinalists calibrator count).findIdx
    (fun held ↦ decide (metrics.score < held.2.score)) = place at *
  by_cases hfull : place ≥ 4
  · -- four finalists, and none of them is worse
    have hlast : count = 4 ∧ place = 4 := by omega
    obtain ⟨rfl, rfl⟩ := hlast
    have hall : calibrator.discoveryFinalistCount.toNat = 4 := by omega
    refine ⟨calibrator, if_pos hfull, harrays, ?_⟩
    have hend := List.insertIdx_length_self (l := firstFinalists calibrator 4)
      (x := (profile, metrics))
    rw [hlength] at hend
    rw [finalists, hall, hend, List.take_left' hlength]
  rw [if_neg hfull]
  obtain ⟨size, hsize⟩ : ∃ size,
      (if count < 4 then count + 1 else count) = size := ⟨_, rfl⟩
  rw [hsize]
  have hroom : place < size ∧ size ≤ 4 := by
    split_ifs at hsize <;> omega
  obtain ⟨profiles, hprofiles, hprofilesLength, hprofilesTake⟩ :=
    insertAt_spec profile calibrator.discoveryFinalistProfiles hroom.1
      (by rw [harrays.profiles]; exact hroom.2)
  obtain ⟨finalistMetrics, hmetrics, hmetricsLength, hmetricsTake⟩ :=
    insertAt_spec metrics calibrator.discoveryFinalistMetrics hroom.1
      (by rw [harrays.metrics]; exact hroom.2)
  have hword : (UInt8.ofNat size).toNat = size := by
    rw [UInt8.toNat_ofNat', Nat.mod_eq_of_lt (by omega)]
  simp only [hprofiles, hmetrics, Option.bind_some, Option.map_some]
  refine ⟨_, rfl, ⟨hprofilesLength.trans harrays.profiles,
    hmetricsLength.trans harrays.metrics, ?_⟩, ?_⟩
  · exact hword.trans_le hroom.2
  · rw [finalists, firstFinalists]
    dsimp only
    rw [hword, hprofilesTake, hmetricsTake, zip_insertIdx (by
      rw [List.length_take, List.length_take, harrays.profiles, harrays.metrics])]
    change (firstFinalists calibrator (size - 1)).insertIdx place _ = _
    split_ifs at hsize with hmore
    · -- room for one more
      subst hsize
      rw [Nat.add_sub_cancel, List.take_of_length_le]
      rw [List.length_insertIdx_of_le_length (by omega), hlength]
      omega
    · -- the last one is pushed out
      obtain rfl : count = 4 := by omega
      subst hsize
      rw [take_succ_insertIdx (n := 3) (by omega) _ _ (by omega)]
      congr 1
      rw [firstFinalists, firstFinalists, List.zip_eq_zipWith, List.zip_eq_zipWith,
        List.take_zipWith, List.take_take, List.take_take]
      rfl

/-- A candidate of a family that is not held needs no room to be made. -/
theorem keepBest_of_new {kept : List Finalist} {entry : Finalist}
    (hnew : ∀ held ∈ kept, finalistFamily held ≠ finalistFamily entry) :
    keepBest finalistFamily finalistScore 4 kept entry =
      insertScore finalistScore 4 entry kept := by
  rw [keepBest, if_neg, List.filter_eq_self.mpr fun held hheld ↦
    decide_eq_true (hnew held hheld)]
  rintro ⟨held, hheld, hfamily, -⟩
  exact hnew held hheld hfamily

/-- Where a family stands among the profiles, it stands among the finalists. -/
theorem family_place (harrays : Arrays calibrator) (profile : Max35103Profile) :
    (calibrator.discoveryFinalistProfiles.take
      calibrator.discoveryFinalistCount.toNat).findIdx?
        (fun held ↦ profile.tof1 = held.tof1) =
      (finalists calibrator).findIdx?
        fun held ↦ finalistFamily held = profile.tof1 := by
  rw [← firstFinalists_fst harrays, List.findIdx?_map]
  congr 1
  funext held
  exact decide_eq_decide.mpr eq_comm

theorem insertDiscoveryFinalist_finalists (harrays : Arrays calibrator)
    (hnodup : ((finalists calibrator).map finalistFamily).Nodup)
    (profile : Max35103Profile) (metrics : Max35103AutoCalMetrics) :
    ∃ after, insertDiscoveryFinalist calibrator profile metrics = some after ∧
      Arrays after ∧
      finalists after = keepBest finalistFamily finalistScore 4
        (finalists calibrator) (profile, metrics) := by
  have hlength := harrays.length harrays.count
  simp only [insertDiscoveryFinalist, family_place harrays]
  cases hfind : (finalists calibrator).findIdx?
      (fun held ↦ finalistFamily held = profile.tof1) with
  | none =>
      rw [keepBest_of_new]
      · exact insertByScore_finalists harrays harrays.count (.inl rfl) profile metrics
      · intro held hheld
        exact of_decide_eq_false (List.findIdx?_eq_none_iff.mp hfind held hheld)
  | some i =>
      obtain ⟨hi, hfamily, -⟩ := List.findIdx?_eq_some_iff_getElem.mp hfind
      replace hfamily := of_decide_eq_true hfamily
      have hheld : calibrator.discoveryFinalistMetrics[i]? =
          some (finalists calibrator)[i].2 := by
        rw [← List.getElem?_take_of_lt (hi.trans_eq hlength),
          ← firstFinalists_snd harrays, List.getElem?_map]
        exact congrArg _ (List.getElem?_eq_getElem hi)
      simp only [hheld, Option.bind_some]
      by_cases hworse : metrics.score ≥ (finalists calibrator)[i].2.score
      · refine ⟨calibrator, if_pos hworse, harrays, ?_⟩
        rw [keepBest, if_pos ⟨_, List.getElem_mem hi, hfamily,
          UInt64.le_iff_toNat_le.mp hworse⟩]
      · have honly : ¬ ∃ held ∈ finalists calibrator,
            finalistFamily held = finalistFamily (profile, metrics) ∧
              finalistScore held ≤ finalistScore (profile, metrics) := by
          rintro ⟨held, hmem, hsame, hscore⟩
          obtain rfl := List.inj_on_of_nodup_map hnodup hmem (List.getElem_mem hi)
            (hsame.trans hfamily.symm)
          exact hworse (UInt64.le_iff_toNat_le.mpr hscore)
        have hplace : i < calibrator.discoveryFinalistCount.toNat :=
          hi.trans_eq hlength
        obtain ⟨profiles, hprofiles, hprofilesLength, hprofilesTake⟩ :=
          take_moveDown calibrator.discoveryFinalistProfiles hplace
            (by rw [harrays.profiles]; exact harrays.count)
        obtain ⟨finalistMetrics, hmetrics, hmetricsLength, hmetricsTake⟩ :=
          take_moveDown calibrator.discoveryFinalistMetrics hplace
            (by rw [harrays.metrics]; exact harrays.count)
        simp only [if_neg hworse, hprofiles, hmetrics, Option.bind_some]
        have hothers : (finalists calibrator).eraseIdx i =
            (finalists calibrator).filter fun held ↦
              finalistFamily held ≠ finalistFamily (profile, metrics) :=
          eraseIdx_findIdx? finalistFamily hnodup hfind
        rw [keepBest, if_neg honly, ← hothers]
        have hmoved : Arrays { calibrator with
            discoveryFinalistProfiles := profiles
            discoveryFinalistMetrics := finalistMetrics } :=
          ⟨hprofilesLength.trans harrays.profiles,
            hmetricsLength.trans harrays.metrics, harrays.count⟩
        have hcount := harrays.count
        obtain ⟨after, hafter, harraysAfter, hfinalists⟩ :=
          insertByScore_finalists hmoved
            (by omega : calibrator.discoveryFinalistCount.toNat - 1 ≤ 4)
            (.inr (by omega)) profile metrics
        refine ⟨after, hafter, harraysAfter, hfinalists.trans ?_⟩
        rw [firstFinalists, hprofilesTake, hmetricsTake, zip_eraseIdx]
        · rfl
        · rw [List.length_take, List.length_take, harrays.profiles, harrays.metrics]

end Insertion

end Swfpm.AutoCal
