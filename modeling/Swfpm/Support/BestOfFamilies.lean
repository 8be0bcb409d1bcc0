import Mathlib

/-!
# The best families of a sequence

Candidates arrive one after the other; each belongs to a family and has a
score, lower ones being better.  A family is led by its first best candidate,
and the leaders are ranked by score, those with the same score by when they
were seen.  `keepBest` maintains the first few leaders without looking back at
the candidates that it has dropped.
-/

namespace BestOfFamilies

variable {α φ σ : Type*} [LinearOrder σ]
variable (family : α → φ) (score : α → σ)

/-! ## The leaders of a sequence -/

/-- What a candidate is ranked by: its score, and then its place. -/
def key (p : α × ℕ) : σ ×ₗ ℕ := toLex (score p.1, p.2)

/-- The first best candidate of its family. -/
def Leads (seen : List α) (p : α × ℕ) : Prop :=
  p ∈ seen.zipIdx ∧
    ∀ q ∈ seen.zipIdx, family q.1 = family p.1 → key score p ≤ key score q

/-- All leaders, best first. -/
def ranking [DecidableEq φ] (seen : List α) : List (α × ℕ) :=
  (seen.zipIdx.filter fun p ↦ ∀ q ∈ seen.zipIdx,
    family q.1 = family p.1 → key score p ≤ key score q).insertionSort
      fun p q ↦ key score p ≤ key score q

/-- The leaders of the best families, at most `limit` of them. -/
def bestFamilies [DecidableEq φ] (limit : ℕ) (seen : List α) : List α :=
  ((ranking family score seen).take limit).map Prod.fst

/-! ## Keeping them -/

/-- Insertion after all entries that are not worse. -/
def insertScore (limit : ℕ) (entry : α) (kept : List α) : List α :=
  (kept.takeWhile (fun held ↦ score held ≤ score entry) ++
    entry :: kept.dropWhile (fun held ↦ score held ≤ score entry)).take limit

/-- One more candidate. -/
def keepBest [DecidableEq φ] (limit : ℕ) (kept : List α) (entry : α) : List α :=
  if ∃ held ∈ kept, family held = family entry ∧ score held ≤ score entry then
    kept
  else
    insertScore score limit entry
      (kept.filter fun held ↦ family held ≠ family entry)

/-- The first best candidate so far. -/
def better (best : Option α) (entry : α) : Option α :=
  if ∀ held ∈ best, score entry < score held then some entry else best

variable {family score} {seen : List α} {p q : α × ℕ} {entry : α}

/-! ## Places -/

theorem snd_lt_of_mem_zipIdx (hp : p ∈ seen.zipIdx) : p.2 < seen.length := by
  have hbound := List.snd_lt_of_mem_zipIdx hp
  omega

/-- A place holds one candidate. -/
theorem eq_of_snd_eq (hp : p ∈ seen.zipIdx) (hq : q ∈ seen.zipIdx)
    (hplace : p.2 = q.2) : p = q := by
  rw [List.mem_zipIdx_iff_getElem?] at hp hq
  rw [hplace, hq, Option.some.injEq] at hp
  exact Prod.ext hp.symm hplace

theorem key_le_new_iff (hp : p ∈ seen.zipIdx) :
    key score p ≤ key score (entry, seen.length) ↔ score p.1 ≤ score entry := by
  have hplace := snd_lt_of_mem_zipIdx hp
  rw [key, key, Prod.Lex.toLex_le_toLex]
  constructor
  · rintro (hlt | ⟨heq, -⟩)
    · exact hlt.le
    · exact heq.le
  · intro hle
    obtain hlt | heq := hle.lt_or_eq
    · exact .inl hlt
    · exact .inr ⟨heq, hplace.le⟩

theorem new_le_key_iff (hp : p ∈ seen.zipIdx) :
    key score (entry, seen.length) ≤ key score p ↔ score entry < score p.1 := by
  have hplace := snd_lt_of_mem_zipIdx hp
  rw [key, key, Prod.Lex.toLex_le_toLex]
  constructor
  · rintro (hlt | ⟨-, hle⟩)
    · exact hlt
    · exact absurd hle (Nat.not_le.mpr hplace)
  · exact .inl

theorem score_le_of_key_le (hle : key score p ≤ key score q) :
    score p.1 ≤ score q.1 := by
  rw [key, key, Prod.Lex.toLex_le_toLex] at hle
  obtain hlt | ⟨heq, -⟩ := hle
  · exact hlt.le
  · exact heq.le

theorem mem_zipIdx_concat :
    p ∈ (seen ++ [entry]).zipIdx ↔
      p ∈ seen.zipIdx ∨ p = (entry, seen.length) := by
  rw [List.zipIdx_append, List.mem_append]
  simp

/-! ## Leaders -/

theorem Leads.unique (hp : Leads family score seen p)
    (hq : Leads family score seen q) (hfamily : family p.1 = family q.1) :
    p = q := by
  have hkey : key score p = key score q :=
    le_antisymm (hp.2 q hq.1 hfamily.symm) (hq.2 p hp.1 hfamily)
  exact eq_of_snd_eq hp.1 hq.1 (congrArg (fun k ↦ (ofLex k).2) hkey)

/-- A family that was seen has a leader. -/
theorem exists_leads (hq : q ∈ seen.zipIdx) :
    ∃ p, Leads family score seen p ∧ family p.1 = family q.1 := by
  have hfinite : {r | r ∈ seen.zipIdx ∧ family r.1 = family q.1}.Finite :=
    (List.finite_toSet seen.zipIdx).subset fun r hr ↦ hr.1
  obtain ⟨p, ⟨hp, hfamily⟩, hleast⟩ :=
    Set.exists_min_image _ (key score) hfinite ⟨q, hq, rfl⟩
  exact ⟨p, ⟨hp, fun r hr hsame ↦ hleast r ⟨hr, hsame.trans hfamily⟩⟩, hfamily⟩

/-- The candidate does not beat the leader of its family. -/
theorem leads_concat_of_beaten (hbeaten : Leads family score seen q)
    (hfamily : family q.1 = family entry) (hscore : score q.1 ≤ score entry) :
    Leads family score (seen ++ [entry]) p ↔ Leads family score seen p := by
  have hbefore : key score q ≤ key score (entry, seen.length) :=
    (key_le_new_iff hbeaten.1).mpr hscore
  constructor
  · rintro ⟨hmem, hleads⟩
    obtain hp | rfl := mem_zipIdx_concat.mp hmem
    · exact ⟨hp, fun r hr ↦ hleads r (mem_zipIdx_concat.mpr (.inl hr))⟩
    · have hle := hleads q (mem_zipIdx_concat.mpr (.inl hbeaten.1)) hfamily
      have hlt := (new_le_key_iff hbeaten.1).mp hle
      exact absurd hscore (not_le.mpr hlt)
  · rintro ⟨hp, hleads⟩
    refine ⟨mem_zipIdx_concat.mpr (.inl hp), fun r hr hsame ↦ ?_⟩
    obtain hr | rfl := mem_zipIdx_concat.mp hr
    · exact hleads r hr hsame
    · exact (hleads q hbeaten.1 (hfamily.trans hsame)).trans hbefore

/-- The candidate beats whatever was seen of its family. -/
theorem leads_concat_of_new
    (hbest : ∀ r ∈ seen.zipIdx, family r.1 = family entry →
      score entry < score r.1) :
    Leads family score (seen ++ [entry]) p ↔
      p = (entry, seen.length) ∨
        Leads family score seen p ∧ family p.1 ≠ family entry := by
  constructor
  · rintro ⟨hmem, hleads⟩
    obtain hp | rfl := mem_zipIdx_concat.mp hmem
    · right
      refine ⟨⟨hp, fun r hr ↦ hleads r (mem_zipIdx_concat.mpr (.inl hr))⟩, ?_⟩
      intro hfamily
      have hle := hleads (entry, seen.length) (mem_zipIdx_concat.mpr (.inr rfl))
        hfamily.symm
      have hscore := (key_le_new_iff hp).mp hle
      exact absurd hscore (not_le.mpr (hbest p hp hfamily))
    · exact .inl rfl
  · rintro (rfl | ⟨⟨hp, hleads⟩, hfamily⟩)
    · refine ⟨mem_zipIdx_concat.mpr (.inr rfl), fun r hr hsame ↦ ?_⟩
      obtain hr | rfl := mem_zipIdx_concat.mp hr
      · exact (new_le_key_iff hr).mpr (hbest r hr hsame)
      · exact le_rfl
    · refine ⟨mem_zipIdx_concat.mpr (.inl hp), fun r hr hsame ↦ ?_⟩
      obtain hr | rfl := mem_zipIdx_concat.mp hr
      · exact hleads r hr hsame
      · exact absurd hsame.symm hfamily

/-! ## The first few leaders -/

variable (family score) in
/-- The list of the first leaders, at most `limit` of them, with their places. -/
structure IsTop (limit : ℕ) (seen : List α) (top : List (α × ℕ)) : Prop where
  sorted : top.Pairwise fun p q ↦ key score p ≤ key score q
  nodup : top.Nodup
  leads : ∀ p ∈ top, Leads family score seen p
  bounded : top.length ≤ limit
  complete : ∀ p, Leads family score seen p →
    p ∈ top ∨ top.length = limit ∧ ∀ q ∈ top, key score q ≤ key score p

instance keyTotal : Std.Total fun p q : α × ℕ ↦ key score p ≤ key score q :=
  ⟨fun p q ↦ le_total (key score p) (key score q)⟩

instance keyTrans : IsTrans (α × ℕ) fun p q ↦ key score p ≤ key score q :=
  ⟨fun _ _ _ hpq hqr ↦ hpq.trans hqr⟩

variable {limit : ℕ} {top : List (α × ℕ)}

theorem isTop_nil : IsTop family score limit [] [] where
  sorted := .nil
  nodup := .nil
  leads _ hp := absurd hp List.not_mem_nil
  bounded := Nat.zero_le limit
  complete p hp := absurd hp.1 (by simp)

/-! ## One more candidate -/

theorem IsTop.congr {seen' : List α} (htop : IsTop family score limit seen top)
    (hleads : ∀ p, Leads family score seen' p ↔ Leads family score seen p) :
    IsTop family score limit seen' top where
  sorted := htop.sorted
  nodup := htop.nodup
  leads p hp := (hleads p).mpr (htop.leads p hp)
  bounded := htop.bounded
  complete p hp := htop.complete p ((hleads p).mp hp)

/-- The place of a new candidate among older ones. -/
theorem map_orderedInsert_new {rest : List (α × ℕ)}
    (hrest : ∀ p ∈ rest, p ∈ seen.zipIdx) :
    (rest.orderedInsert (fun p q ↦ key score p ≤ key score q)
        (entry, seen.length)).map Prod.fst =
      (rest.map Prod.fst).takeWhile (fun held ↦ score held ≤ score entry) ++
        entry ::
          (rest.map Prod.fst).dropWhile fun held ↦ score held ≤ score entry := by
  induction rest with
  | nil => rfl
  | cons p rest ih =>
      rw [List.forall_mem_cons] at hrest
      have hplace : key score (entry, seen.length) ≤ key score p ↔
          score entry < score p.1 := new_le_key_iff hrest.1
      rw [List.orderedInsert_cons, List.map_cons, List.takeWhile_cons,
        List.dropWhile_cons]
      by_cases hless : score entry < score p.1
      · rw [if_pos (hplace.mpr hless)]
        simp [not_le.mpr hless]
      · rw [if_neg (mt hplace.mp hless), List.map_cons, ih hrest.2]
        simp [not_lt.mp hless]

/-- What a sorted list loses comes after what it keeps. -/
theorem mem_take_or_after {inserted : List (α × ℕ)}
    (hsorted : inserted.Pairwise fun p q ↦ key score p ≤ key score q)
    (limit : ℕ) (hp : p ∈ inserted) :
    p ∈ inserted.take limit ∨ (inserted.take limit).length = limit ∧
      ∀ q ∈ inserted.take limit, key score q ≤ key score p := by
  rw [← List.take_append_drop limit inserted] at hp hsorted
  obtain hkept | hlost := List.mem_append.mp hp
  · exact .inl hkept
  · right
    constructor
    · have hsome := List.length_pos_of_mem hlost
      rw [List.length_drop] at hsome
      rw [List.length_take]
      omega
    · intro q hq
      exact (List.pairwise_append.mp hsorted).2.2 q hq p hlost

/-- Insertion only adds the entry. -/
theorem insertScore_subperm (limit : ℕ) (entry : α) (kept : List α) :
    (insertScore score limit entry kept).Subperm (entry :: kept) := by
  have hperm : (kept.takeWhile (fun held ↦ score held ≤ score entry) ++
      entry :: kept.dropWhile fun held ↦ score held ≤ score entry).Perm
        (entry :: kept) := by
    refine List.perm_middle.trans ?_
    rw [List.takeWhile_append_dropWhile]
  exact (List.take_sublist _ _).subperm.trans hperm.subperm

section Decidable

variable [DecidableEq φ]

theorem mem_of_mem_keepBest {kept : List α} {held : α}
    (hheld : held ∈ keepBest family score limit kept entry) :
    held = entry ∨ held ∈ kept := by
  rw [keepBest] at hheld
  split_ifs at hheld
  · exact .inr hheld
  · rcases List.mem_cons.mp ((insertScore_subperm _ _ _).subset hheld) with
      rfl | hheld
    · exact .inl rfl
    · exact .inr (List.mem_of_mem_filter hheld)

theorem keepBest_nodup {kept : List α} (hnodup : (kept.map family).Nodup) :
    ((keepBest family score limit kept entry).map family).Nodup := by
  rw [keepBest]
  split_ifs
  · exact hnodup
  · set others := kept.filter fun held ↦ family held ≠ family entry
      with hothers
    obtain ⟨all, hperm, hsublist⟩ :
        (insertScore score limit entry others).Subperm (entry :: others) :=
      insertScore_subperm limit entry others
    have hfresh : family entry ∉ others.map family := by
      intro hmem
      obtain ⟨held, hheld, hfamily⟩ := List.mem_map.mp hmem
      exact of_decide_eq_true (List.mem_filter.mp hheld).2 hfamily
    have hrest : (others.map family).Nodup :=
      hnodup.sublist (List.filter_sublist.map family)
    have hall : ((entry :: others).map family).Nodup :=
      List.nodup_cons.mpr ⟨hfresh, hrest⟩
    exact (hperm.map family).nodup_iff.mp (hall.sublist (hsublist.map family))

theorem mem_ranking : p ∈ ranking family score seen ↔ Leads family score seen p := by
  rw [ranking, List.mem_insertionSort, List.mem_filter, decide_eq_true_iff]
  rfl

theorem ranking_sorted (seen : List α) :
    (ranking family score seen).Pairwise fun p q ↦ key score p ≤ key score q :=
  List.pairwise_insertionSort _ _

theorem zipIdx_nodup (seen : List α) : seen.zipIdx.Nodup := by
  apply List.Nodup.of_map Prod.snd
  rw [List.zipIdx_map_snd]
  exact List.nodup_range'

theorem ranking_nodup (seen : List α) : (ranking family score seen).Nodup := by
  apply (List.perm_insertionSort _ _).nodup_iff.mpr
  exact (zipIdx_nodup seen).filter _

open Classical in
/-- There is only one list of the first leaders. -/
theorem IsTop.eq_take (htop : IsTop family score limit seen top) :
    top = (ranking family score seen).take limit := by
  set rest := (ranking family score seen).filter (· ∉ top) with hrest
  have hleads : ∀ p ∈ rest, Leads family score seen p ∧ p ∉ top := by
    intro p hp
    rw [hrest, List.mem_filter, decide_eq_true_iff] at hp
    exact ⟨mem_ranking.mp hp.1, hp.2⟩
  have hafter : ∀ p ∈ rest, top.length = limit ∧
      ∀ q ∈ top, key score q ≤ key score p := by
    intro p hp
    exact (htop.complete p (hleads p hp).1).resolve_left (hleads p hp).2
  have hperm : (top ++ rest).Perm (ranking family score seen) := by
    have hnodup : (top ++ rest).Nodup := by
      refine List.nodup_append'.mpr
        ⟨htop.nodup, (ranking_nodup seen).filter _, ?_⟩
      intro p hp hp'
      exact (hleads p hp').2 hp
    rw [List.perm_ext_iff_of_nodup hnodup (ranking_nodup seen)]
    intro p
    rw [List.mem_append, mem_ranking, hrest, List.mem_filter, mem_ranking,
      decide_eq_true_iff]
    constructor
    · rintro (hp | hp)
      · exact htop.leads p hp
      · exact hp.1
    · intro hp
      by_cases hmem : p ∈ top
      · exact .inl hmem
      · exact .inr ⟨hp, hmem⟩
  have hsorted : (top ++ rest).Pairwise
      fun p q ↦ key score p ≤ key score q := by
    refine List.pairwise_append.mpr
      ⟨htop.sorted, (ranking_sorted seen).filter _, ?_⟩
    intro q hq p hp
    exact (hafter p hp).2 q hq
  have hsplit : top ++ rest = ranking family score seen := by
    refine hperm.eq_of_pairwise ?_ hsorted (ranking_sorted seen)
    intro p q hp hq hpq hqp
    have hp' := mem_ranking.mp (hperm.subset hp)
    have hq' := mem_ranking.mp hq
    exact eq_of_snd_eq hp'.1 hq'.1
      (congrArg (fun k ↦ (ofLex k).2) (le_antisymm hpq hqp))
  rw [← hsplit]
  by_cases hfull : top.length = limit
  · rw [← hfull, List.take_left]
  · have hnone : rest = [] := by
      rw [List.eq_nil_iff_forall_not_mem]
      intro p hp
      exact hfull (hafter p hp).1
    rw [hnone, List.append_nil, List.take_of_length_le htop.bounded]

/-- Of one family at most the leader was kept. -/
theorem IsTop.length_le_filter (htop : IsTop family score limit seen top)
    (entry : α) :
    top.length ≤
      (top.filter fun p ↦ family p.1 ≠ family entry).length + 1 := by
  have hsplit := List.length_eq_length_filter_add
    (l := top) fun p ↦ decide (family p.1 = family entry)
  have hone : (top.filter fun p ↦ family p.1 = family entry).length ≤ 1 := by
    by_contra hmore
    obtain ⟨p, q, others, heq⟩ : ∃ p q others,
        (top.filter fun p ↦ family p.1 = family entry) = p :: q :: others := by
      match htwo : top.filter fun p ↦ family p.1 = family entry with
      | [] => simp [htwo] at hmore
      | [p] => simp [htwo] at hmore
      | p :: q :: others => exact ⟨p, q, others, htwo⟩
    have hnodup := htop.nodup.filter fun p ↦ decide (family p.1 = family entry)
    have hmem : ∀ r ∈ p :: q :: others, r ∈ top ∧ family r.1 = family entry := by
      intro r hr
      rw [← heq, List.mem_filter, decide_eq_true_iff] at hr
      exact hr
    obtain ⟨hp, hpFamily⟩ := hmem p (by simp)
    obtain ⟨hq, hqFamily⟩ := hmem q (by simp)
    have hsame : p = q := (htop.leads p hp).unique (htop.leads q hq)
      (hpFamily.trans hqFamily.symm)
    rw [heq, hsame] at hnodup
    simp at hnodup
  have hrest : (top.filter fun p ↦ !decide (family p.1 = family entry)) =
      top.filter fun p ↦ family p.1 ≠ family entry := by
    simp
  rw [hrest] at hsplit
  omega

/-- A candidate that beats its family comes in at its place, in place of what
was kept of the family, and the last leader may have to go. -/
theorem IsTop.insert (htop : IsTop family score limit seen top)
    (hbest : ∀ r ∈ seen.zipIdx, family r.1 = family entry →
      score entry < score r.1) :
    IsTop family score limit (seen ++ [entry])
      (((top.filter fun p ↦ family p.1 ≠ family entry).orderedInsert
        (fun p q ↦ key score p ≤ key score q) (entry, seen.length)).take
          limit) := by
  have hmemRest : ∀ p, p ∈ (top.filter fun p ↦ family p.1 ≠ family entry) ↔
      p ∈ top ∧ family p.1 ≠ family entry := by
    intro p
    rw [List.mem_filter, decide_eq_true_iff]
  have hlength := htop.length_le_filter entry
  have hrestSorted := htop.sorted.filter fun p ↦ decide (family p.1 ≠ family entry)
  have hrestNodup := htop.nodup.filter fun p ↦ decide (family p.1 ≠ family entry)
  have hall : (∀ p ∈ top, family p.1 ≠ family entry) →
      (top.filter fun p ↦ family p.1 ≠ family entry).length = top.length := by
    intro hnone
    rw [List.length_filter_eq_length_iff]
    exact fun p hp ↦ decide_eq_true (hnone p hp)
  generalize (top.filter fun p ↦ family p.1 ≠ family entry) = rest at *
  set inserted := rest.orderedInsert (fun p q ↦ key score p ≤ key score q)
    (entry, seen.length) with hinserted
  have hperm : inserted.Perm ((entry, seen.length) :: rest) :=
    List.perm_orderedInsert _ _ _
  have hmem : ∀ p, p ∈ inserted ↔ p = (entry, seen.length) ∨ p ∈ rest := by
    intro p
    rw [hperm.mem_iff, List.mem_cons]
  have hsorted : inserted.Pairwise fun p q ↦ key score p ≤ key score q :=
    hrestSorted.orderedInsert _ _
  have hfresh : (entry, seen.length) ∉ rest := by
    intro hold
    have hplace := snd_lt_of_mem_zipIdx
      (htop.leads _ ((hmemRest _).mp hold).1).1
    exact absurd hplace (lt_irrefl _)
  have hnodup : inserted.Nodup :=
    hperm.nodup_iff.mpr (List.nodup_cons.mpr ⟨hfresh, hrestNodup⟩)
  have hlast : inserted.length = rest.length + 1 := hperm.length_eq
  refine ⟨hsorted.sublist (List.take_sublist _ _),
    hnodup.sublist (List.take_sublist _ _), ?_,
    List.length_take_le _ _, ?_⟩
  · intro p hp
    rw [leads_concat_of_new hbest]
    obtain rfl | hold := (hmem p).mp (List.mem_of_mem_take hp)
    · exact .inl rfl
    · obtain ⟨hp, hfamily⟩ := (hmemRest p).mp hold
      exact .inr ⟨htop.leads p hp, hfamily⟩
  · intro p hp
    obtain rfl | ⟨hleads, hfamily⟩ := (leads_concat_of_new hbest).mp hp
    · exact mem_take_or_after hsorted limit ((hmem _).mpr (.inl rfl))
    obtain hkept | ⟨hfull, hafter⟩ := htop.complete p hleads
    · exact mem_take_or_after hsorted limit
        ((hmem p).mpr (.inr ((hmemRest p).mpr ⟨hkept, hfamily⟩)))
    right
    constructor
    · rw [List.length_take]
      omega
    · intro q hq
      obtain rfl | hold := (hmem q).mp (List.mem_of_mem_take hq)
      · -- some leader that was kept is worse than the candidate
        suffices hworse : ∃ z ∈ top,
            key score (entry, seen.length) ≤ key score z by
          obtain ⟨z, hz, hle⟩ := hworse
          exact hle.trans (hafter z hz)
        by_cases hremoved : ∃ m ∈ top, family m.1 = family entry
        · obtain ⟨m, hm, hsame⟩ := hremoved
          have hold := (htop.leads m hm).1
          exact ⟨m, hm, (new_le_key_iff hold).mpr (hbest m hold hsame)⟩
        · have hlength' := hall fun m hm hsame ↦ hremoved ⟨m, hm, hsame⟩
          obtain ⟨z, hz⟩ : ∃ z, z ∈ inserted.drop limit := by
            apply List.exists_mem_of_length_pos
            rw [List.length_drop]
            omega
          have hsplit := hsorted
          have hdistinct := hnodup
          rw [← List.take_append_drop limit inserted] at hsplit hdistinct
          have hle := (List.pairwise_append.mp hsplit).2.2 _ hq z hz
          have hne : z ≠ (entry, seen.length) := by
            rintro rfl
            exact (List.disjoint_of_nodup_append hdistinct) hq hz
          have hold := ((hmem z).mp (List.mem_of_mem_drop hz)).resolve_left hne
          exact ⟨z, ((hmemRest z).mp hold).1, hle⟩
      · exact hafter q ((hmemRest q).mp hold).1


/-- A candidate that comes after everything that was kept is dropped again. -/
theorem insertScore_of_full {kept : List α} (hfull : kept.length = limit)
    (hbefore : ∀ held ∈ kept, score held ≤ score entry) :
    insertScore score limit entry kept = kept := by
  have hall : ∀ held ∈ kept, decide (score held ≤ score entry) = true :=
    fun held hheld ↦ decide_eq_true (hbefore held hheld)
  rw [insertScore, List.takeWhile_eq_self_iff.mpr hall,
    List.dropWhile_eq_nil_iff.mpr hall, ← hfull, List.take_left]

theorem IsTop.keepBest (htop : IsTop family score limit seen top) (entry : α) :
    ∃ top', IsTop family score limit (seen ++ [entry]) top' ∧
      top'.map Prod.fst =
        keepBest family score limit (top.map Prod.fst) entry := by
  rw [BestOfFamilies.keepBest]
  by_cases hheld : ∃ held ∈ top.map Prod.fst,
      family held = family entry ∧ score held ≤ score entry
  · rw [if_pos hheld]
    obtain ⟨held, hmem, hfamily, hscore⟩ := hheld
    obtain ⟨q, hq, rfl⟩ := List.mem_map.mp hmem
    exact ⟨top, htop.congr fun p ↦
      leads_concat_of_beaten (htop.leads q hq) hfamily hscore, rfl⟩
  rw [if_neg hheld]
  by_cases hbeaten : ∃ r ∈ seen.zipIdx,
      family r.1 = family entry ∧ score r.1 ≤ score entry
  · -- the family was dropped, and its leader still beats the candidate
    obtain ⟨r, hr, hfamily, hscore⟩ := hbeaten
    obtain ⟨m, hm, hsame⟩ : ∃ m, Leads family score seen m ∧
        family m.1 = family r.1 := exists_leads hr
    have hmFamily := hsame.trans hfamily
    have hmScore := (score_le_of_key_le (hm.2 r hr hsame.symm)).trans hscore
    have hdropped : m ∉ top := fun hkept ↦
      hheld ⟨m.1, List.mem_map_of_mem hkept, hmFamily, hmScore⟩
    obtain ⟨hfull, hafter⟩ := (htop.complete m hm).resolve_left hdropped
    refine ⟨top, htop.congr fun p ↦
      leads_concat_of_beaten hm hmFamily hmScore, ?_⟩
    have hothers : (top.map Prod.fst).filter
        (fun held ↦ family held ≠ family entry) = top.map Prod.fst := by
      rw [List.filter_eq_self]
      intro held hmem
      obtain ⟨q, hq, rfl⟩ := List.mem_map.mp hmem
      apply decide_eq_true
      intro hqFamily
      have heq := (htop.leads q hq).unique hm (hqFamily.trans hmFamily.symm)
      exact hdropped (heq ▸ hq)
    rw [hothers, insertScore_of_full (by rw [List.length_map, hfull])]
    intro held hmem
    obtain ⟨q, hq, rfl⟩ := List.mem_map.mp hmem
    exact (score_le_of_key_le (hafter q hq)).trans hmScore
  · have hbest : ∀ r ∈ seen.zipIdx, family r.1 = family entry →
        score entry < score r.1 := by
      intro r hr hsame
      exact not_le.mp fun hle ↦ hbeaten ⟨r, hr, hsame, hle⟩
    refine ⟨_, htop.insert hbest, ?_⟩
    have hold : ∀ p ∈ top.filter fun p ↦ family p.1 ≠ family entry,
        p ∈ seen.zipIdx := fun p hp ↦
      (htop.leads p (List.mem_of_mem_filter hp)).1
    rw [List.map_take, map_orderedInsert_new hold, insertScore, List.filter_map]
    rfl

/-- Keeping the best needs no memory of what was dropped. -/
theorem foldl_keepBest (limit : ℕ) (seen : List α) :
    seen.foldl (BestOfFamilies.keepBest family score limit) [] =
      bestFamilies family score limit seen := by
  obtain ⟨top, htop, heq⟩ : ∃ top, IsTop family score limit seen top ∧
      top.map Prod.fst =
        seen.foldl (BestOfFamilies.keepBest family score limit) [] := by
    induction seen using List.reverseRecOn with
    | nil => exact ⟨[], isTop_nil, rfl⟩
    | append_singleton seen entry ih =>
        obtain ⟨top, htop, heq⟩ := ih
        rw [List.foldl_concat, ← heq]
        exact htop.keepBest entry
  rw [← heq, htop.eq_take]
  rfl

/-! ## What is kept -/

theorem bestFamilies_sorted (limit : ℕ) (seen : List α) :
    (bestFamilies family score limit seen).Pairwise
      fun held other ↦ score held ≤ score other := by
  rw [bestFamilies, List.pairwise_map]
  have hsorted : ((ranking family score seen).take limit).Pairwise
      fun p q ↦ key score p ≤ key score q :=
    (ranking_sorted seen).sublist (List.take_sublist limit _)
  exact hsorted.imp fun hle ↦ score_le_of_key_le hle

/-- No family is kept twice. -/
theorem bestFamilies_nodup (limit : ℕ) (seen : List α) :
    ((bestFamilies family score limit seen).map family).Nodup := by
  rw [bestFamilies, List.map_map]
  apply List.Nodup.map_on
  · intro p hp q hq hsame
    exact (mem_ranking.mp (List.mem_of_mem_take hp)).unique
      (mem_ranking.mp (List.mem_of_mem_take hq)) hsame
  · exact (ranking_nodup seen).sublist (List.take_sublist _ _)

theorem bestFamilies_length_le (limit : ℕ) (seen : List α) :
    (bestFamilies family score limit seen).length ≤ limit := by
  rw [bestFamilies, List.length_map]
  exact List.length_take_le _ _

theorem head?_insertScore {kept : List α} (hlimit : 0 < limit) :
    (insertScore score limit entry kept).head? =
      (kept.takeWhile fun held ↦ score held ≤ score entry).head?.or
        (some entry) := by
  rw [insertScore, List.head?_take, if_neg hlimit.ne', List.head?_append,
    List.head?_cons]

theorem head?_keepBest {kept : List α} (hlimit : 0 < limit)
    (hsorted : kept.Pairwise fun held other ↦ score held ≤ score other) :
    (BestOfFamilies.keepBest family score limit kept entry).head? =
      better score kept.head? entry := by
  cases kept with
  | nil =>
      rw [BestOfFamilies.keepBest, if_neg (by simp), List.filter_nil,
        head?_insertScore hlimit]
      simp [better]
  | cons best kept =>
      have hleast : ∀ held ∈ best :: kept, score best ≤ score held := by
        intro held hheld
        obtain rfl | hheld := List.mem_cons.mp hheld
        · exact le_rfl
        · exact List.rel_of_pairwise_cons hsorted hheld
      rw [BestOfFamilies.keepBest]
      by_cases hless : score entry < score best
      · have hworse : ∀ held ∈ best :: kept, ¬ score held ≤ score entry :=
          fun held hheld ↦ not_le.mpr (hless.trans_le (hleast held hheld))
        rw [if_neg fun ⟨held, hheld, _, hle⟩ ↦ hworse held hheld hle,
          head?_insertScore hlimit]
        have hnone : ((best :: kept).filter fun held ↦
            family held ≠ family entry).takeWhile
              (fun held ↦ score held ≤ score entry) = [] := by
          rw [List.takeWhile_eq_nil_iff]
          intro hpos hfirst
          have hmem := List.mem_of_mem_filter (List.getElem_mem hpos)
          exact hworse _ hmem (of_decide_eq_true hfirst)
        rw [hnone]
        simp [better, hless]
      · have hbest : better score (best :: kept).head? entry = some best := by
          simp [better, hless]
        rw [hbest]
        by_cases hheld : ∃ held ∈ best :: kept,
            family held = family entry ∧ score held ≤ score entry
        · rw [if_pos hheld, List.head?_cons]
        · have hother : family best ≠ family entry := fun hsame ↦
            hheld ⟨best, List.mem_cons_self, hsame, not_lt.mp hless⟩
          rw [if_neg hheld, head?_insertScore hlimit,
            List.filter_cons, if_pos (decide_eq_true hother),
            List.takeWhile_cons, if_pos (decide_eq_true (not_lt.mp hless))]
          rfl

theorem head?_bestFamilies (hlimit : 0 < limit) (seen : List α) :
    (bestFamilies family score limit seen).head? =
      seen.foldl (better score) none := by
  induction seen using List.reverseRecOn with
  | nil => simp [bestFamilies, ranking]
  | append_singleton seen entry ih =>
      rw [← foldl_keepBest, List.foldl_concat, List.foldl_concat, foldl_keepBest,
        head?_keepBest hlimit (bestFamilies_sorted limit seen), ih]

end Decidable

end BestOfFamilies
