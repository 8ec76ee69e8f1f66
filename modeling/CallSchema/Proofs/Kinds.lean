import CallSchema.Proofs.Consistency

/-!
The findings of a report by kind. The findings of each kind stand in the order of the report, the
kinds together make up all findings, and the counts are how many there are of each kind. What a
check of a document finds is in the order of kinds, so there the findings kind by kind are the
report again.
-/
namespace CallSchema

namespace FindingKind

theorem mem_all (kind : FindingKind) : kind ∈ all := by
  cases kind <;> decide

theorem nodup_all : all.Nodup := by decide

end FindingKind

namespace Report
variable {report : Report} {kind : FindingKind} {finding : Finding} {kinds : List FindingKind}

theorem mem_ofKind :
    finding ∈ report.ofKind kind ↔ finding ∈ report.findings ∧ finding.kind = kind := by
  rw [ofKind, List.mem_filter, decide_eq_true_iff]

theorem ofKind_sublist (report : Report) (kind : FindingKind) :
    (report.ofKind kind).Sublist report.findings :=
  List.filter_sublist

/-- Kind by kind there are the findings of any of the kinds, if these are different. -/
theorem flatMap_ofKind_perm (report : Report) (distinct : kinds.Nodup) :
    (kinds.flatMap report.ofKind).Perm
      (report.findings.filter fun finding => decide (finding.kind ∈ kinds)) := by
  induction kinds with
  | nil => simp
  | cons kind rest ih =>
    obtain ⟨fresh, distinct⟩ := List.nodup_cons.mp distinct
    have first : (report.findings.filter fun finding => decide (finding.kind ∈ kind :: rest)).filter
        (fun finding => decide (finding.kind = kind)) = report.ofKind kind := by
      rw [List.filter_filter, ofKind]
      exact List.filter_congr fun finding _ => by simp +contextual
    have others : (report.findings.filter fun finding =>
        decide (finding.kind ∈ kind :: rest)).filter
          (fun finding => !decide (finding.kind = kind)) =
        report.findings.filter fun finding => decide (finding.kind ∈ rest) := by
      rw [List.filter_filter]
      refine List.filter_congr fun finding _ => ?_
      by_cases same : finding.kind = kind <;> simp [same, fresh]
    have split := List.filter_append_perm (fun finding : Finding => decide (finding.kind = kind))
      (report.findings.filter fun finding => decide (finding.kind ∈ kind :: rest))
    rw [first, others] at split
    exact ((ih distinct).append_left _).trans split

/-- All findings are found again kind by kind. -/
theorem flatMap_ofKind_all_perm (report : Report) :
    (FindingKind.all.flatMap report.ofKind).Perm report.findings := by
  have perm := report.flatMap_ofKind_perm FindingKind.nodup_all
  rwa [List.filter_eq_self.mpr fun finding _ => decide_eq_true finding.kind.mem_all] at perm

/-! ### Counts -/

/-- Counting a kind changes the number of that kind, which is listed once. -/
theorem countKind_map (counts : FindingKind → Nat) (distinct : kinds.Nodup)
    (listed : kind ∈ kinds) : countKind kind (kinds.map fun other => (other, counts other)) =
      kinds.map fun other => (other, counts other + if kind = other then 1 else 0) := by
  induction kinds with
  | nil => exact absurd listed List.not_mem_nil
  | cons head rest ih =>
    obtain ⟨fresh, distinct⟩ := List.nodup_cons.mp distinct
    rw [List.map_cons, List.map_cons, countKind]
    by_cases same : head = kind
    · subst same
      have unchanged : ∀ other ∈ rest, (other, counts other) =
          (other, counts other + if head = other then 1 else 0) := by
        intro other member
        have different : head ≠ other := fun same => fresh (same ▸ member)
        rw [if_neg different, Nat.add_zero]
      rw [if_pos rfl, if_pos rfl, List.map_congr_left unchanged]
    · have later : kind ∈ rest := (List.mem_cons.mp listed).resolve_left (Ne.symm same)
      rw [if_neg same, if_neg (Ne.symm same), Nat.add_zero, ih distinct later]

/-- Counting the kinds of findings adds to each kind the number of findings of that kind. -/
theorem foldl_countKind (findings : List Finding) (counts : FindingKind → Nat) :
    findings.foldl (fun counts finding => countKind finding.kind counts)
        (FindingKind.all.map fun kind => (kind, counts kind)) =
      FindingKind.all.map fun kind =>
        (kind, counts kind + ((⟨findings⟩ : Report).ofKind kind).length) := by
  induction findings generalizing counts with
  | nil => rfl
  | cons finding rest ih =>
    rw [List.foldl_cons, countKind_map counts FindingKind.nodup_all finding.kind.mem_all, ih]
    refine List.map_congr_left fun kind _ => ?_
    have counted : ((⟨finding :: rest⟩ : Report).ofKind kind).length =
        (if finding.kind = kind then 1 else 0) + ((⟨rest⟩ : Report).ofKind kind).length := by
      rw [ofKind, ofKind, List.filter_cons]
      by_cases same : finding.kind = kind <;> simp [same, Nat.add_comm]
    rw [counted, Nat.add_assoc]

/-- The counts are the numbers of findings of each kind, those that are zero left out. -/
theorem countsByKind_eq (report : Report) : report.countsByKind =
    (FindingKind.all.map fun kind => (kind, (report.ofKind kind).length)).filter
      fun entry => entry.2 != 0 := by
  rw [countsByKind, foldl_countKind report.findings fun _ => 0]
  simp only [Nat.zero_add]

theorem mem_countsByKind {count : Nat} : (kind, count) ∈ report.countsByKind ↔
    0 < count ∧ (report.ofKind kind).length = count := by
  simp only [countsByKind_eq, List.mem_filter, List.mem_map, Prod.mk.injEq, bne_iff_ne]
  constructor
  · rintro ⟨⟨_, _, rfl, rfl⟩, some⟩
    exact ⟨Nat.pos_of_ne_zero some, rfl⟩
  · rintro ⟨positive, rfl⟩
    exact ⟨⟨kind, kind.mem_all, rfl, rfl⟩, Nat.ne_of_gt positive⟩

/-- Kinds are counted in order, each at most once. -/
theorem countsByKind_sublist (report : Report) :
    (report.countsByKind.map Prod.fst).Sublist FindingKind.all := by
  have kinds : (FindingKind.all.map fun kind => (kind, (report.ofKind kind).length)).map Prod.fst =
      FindingKind.all := by
    rw [List.map_map]
    exact List.map_id _
  rw [countsByKind_eq]
  exact kinds ▸ List.filter_sublist.map Prod.fst

/-- The numbers of findings of some kinds add up to how many findings these kinds have, whether or
not zeros are left out. -/
theorem foldl_counts (report : Report) (kinds : List FindingKind) (start : Nat) :
    ((kinds.map fun kind => (kind, (report.ofKind kind).length)).filter
      fun entry => entry.2 != 0).foldl (fun total entry => total + entry.2) start =
        start + (kinds.flatMap report.ofKind).length := by
  induction kinds generalizing start with
  | nil => rfl
  | cons kind rest ih =>
    rw [List.map_cons, List.filter_cons, List.flatMap_cons, List.length_append, ← Nat.add_assoc]
    by_cases none : (report.ofKind kind).length = 0
    · simp [none, ih]
    · simp [none, ih]

theorem total_countsByKind (report : Report) :
    report.countsByKind.foldl (fun total entry => total + entry.2) 0 = report.size := by
  rw [countsByKind_eq, foldl_counts, Nat.zero_add, report.flatMap_ofKind_all_perm.length_eq, size]

end Report

namespace Document

/-- Under each kind but that of rings, a document has at most one finding. -/
theorem length_ofKind_le_one (document : Document) {kind : FindingKind}
    (other : kind ≠ .aliasCycle) : (document.validate.ofKind kind).length ≤ 1 := by
  rw [document.ofKind_eq (FindingKind.mem_ofNames.mpr other)]
  cases Finding.ofSet? kind (document.foundBy kind) <;> simp

/-- The findings on a document stand in the order of kinds. -/
theorem flatMap_ofKind_validate (document : Document) :
    FindingKind.all.flatMap document.validate.ofKind = document.validate.findings := by
  have kinds : FindingKind.all = FindingKind.ofNames ++ [.aliasCycle] := rfl
  have names : FindingKind.ofNames.flatMap document.validate.ofKind =
      nameFindings document.references document.definitions := by
    rw [Definitions.nameFindings_eq_filterMap, List.filterMap_eq_flatMap_toList]
    refine List.flatMap_congr fun kind named => ?_
    rw [document.ofKind_eq named, foundBy]
  rw [kinds, List.flatMap_append, names, List.flatMap_singleton, ofKind_aliasCycle, validate,
    aliasRings_eq]

end Document

/-- **The views of a report agree with it.** Whatever the findings are, those of a kind are the
findings of that kind in the order of the report, and kind by kind there are all findings again,
each as often as before. A kind is counted exactly if it has findings, with their number, in the
order of kinds, and the counts add up to the number of findings. What a check of a document finds
is, kind by kind, the report itself, and each kind but that of rings is found at most once. -/
theorem Report.views_exact :
    (∀ report : Report,
      (∀ kind, (report.ofKind kind).Sublist report.findings ∧
        ∀ finding, finding ∈ report.ofKind kind ↔
          finding ∈ report.findings ∧ finding.kind = kind) ∧
      (FindingKind.all.flatMap report.ofKind).Perm report.findings ∧
      (∀ kind count, (kind, count) ∈ report.countsByKind ↔
        0 < count ∧ (report.ofKind kind).length = count) ∧
      (report.countsByKind.map Prod.fst).Sublist FindingKind.all ∧
      report.countsByKind.foldl (fun total entry => total + entry.2) 0 = report.size) ∧
    ∀ document : Document,
      FindingKind.all.flatMap document.validate.ofKind = document.validate.findings ∧
      ∀ kind, kind ≠ .aliasCycle → (document.validate.ofKind kind).length ≤ 1 := by
  constructor
  · intro report
    exact ⟨fun kind => ⟨report.ofKind_sublist kind, fun _ => mem_ofKind⟩,
      report.flatMap_ofKind_all_perm, fun _ _ => mem_countsByKind, report.countsByKind_sublist,
      report.total_countsByKind⟩
  · intro document
    exact ⟨document.flatMap_ofKind_validate, fun _ => document.length_ofKind_le_one⟩

end CallSchema
