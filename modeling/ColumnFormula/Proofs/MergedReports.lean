import ColumnFormula.Proofs.ReportCounts

namespace ColumnFormula

namespace Report

def addAll (r : Report) (results : List (Text × Conversion)) : Report :=
  results.foldl (fun r x => r.add x.1 x.2) r

def entryOf (x : Text × Conversion) : Entry := ⟨x.1, x.2⟩

theorem addAll_entries (r : Report) (results : List (Text × Conversion)) :
    (r.addAll results).entries = r.entries ++ results.map entryOf := by
  induction results generalizing r with
  | nil => exact (List.append_nil _).symm
  | cons x rest ih =>
      calc ((r.add x.1 x.2).addAll rest).entries
        _ = (r.add x.1 x.2).entries ++ rest.map entryOf := ih _
        _ = r.entries ++ entryOf x :: rest.map entryOf := List.append_assoc ..

theorem mem_withStatus_iff {r : Report} {e : Entry} {status : Conversion.Status} :
    e ∈ r.withStatus status ↔ e ∈ r.entries ∧ e.status = status := by
  rw [withStatus, List.mem_filter, beq_iff_eq]

theorem withStatus_cons (e : Entry) (entries : List Entry) (status : Conversion.Status) :
    (Report.mk (e :: entries)).withStatus status =
      if e.status = status then e :: (Report.mk entries).withStatus status
      else (Report.mk entries).withStatus status := by
  simp only [withStatus, List.filter_cons, beq_iff_eq]

theorem withStatus_perm (r : Report) :
    (r.withStatus .success ++ r.withStatus .warning ++ r.withStatus .failed).Perm r.entries := by
  obtain ⟨entries⟩ := r
  induction entries with
  | nil => exact List.Perm.nil
  | cons e entries ih =>
      cases hstatus : e.status with
      | success => simpa [withStatus_cons, hstatus] using ih
      | warning =>
          have hfront : ((Report.mk entries).withStatus .success ++
              e :: (Report.mk entries).withStatus .warning).Perm
              (e :: ((Report.mk entries).withStatus .success ++
                (Report.mk entries).withStatus .warning)) := List.perm_middle
          simpa [withStatus_cons, hstatus] using
            (hfront.append_right ((Report.mk entries).withStatus .failed)).trans (ih.cons e)
      | failed => simpa [withStatus_cons, hstatus] using List.perm_middle.trans (ih.cons e)

/-- The entries of a report fall into three parts by their results, and each part keeps their
order. -/
structure IsParted (r : Report) : Prop where
  success_iff : ∀ e, e ∈ r.withStatus .success ↔
    e ∈ r.entries ∧ e.result.success ∧ e.result.warnings = []
  warning_iff : ∀ e, e ∈ r.withStatus .warning ↔
    e ∈ r.entries ∧ e.result.success ∧ e.result.warnings ≠ []
  failed_iff : ∀ e, e ∈ r.withStatus .failed ↔ e ∈ r.entries ∧ e.result.success = false
  existsUnique : ∀ e ∈ r.entries, ∃! status, e ∈ r.withStatus status
  perm : (r.withStatus .success ++ r.withStatus .warning ++ r.withStatus .failed).Perm r.entries
  sublist : ∀ status, (r.withStatus status).Sublist r.entries

theorem isParted (r : Report) : IsParted r := by
  constructor
  case success_iff =>
    intro e
    rw [mem_withStatus_iff, (status_iff e).1]
  case warning_iff =>
    intro e
    rw [mem_withStatus_iff, (status_iff e).2.1]
  case failed_iff =>
    intro e
    rw [mem_withStatus_iff, (status_iff e).2.2]
  case existsUnique =>
    intro e he
    refine ⟨e.status, mem_withStatus_iff.mpr ⟨he, rfl⟩, ?_⟩
    intro status hstatus
    exact (mem_withStatus_iff.mp hstatus).2.symm
  case perm => exact r.withStatus_perm
  case sublist => exact fun status => List.filter_sublist

theorem summary_perm {r r' : Report} (h : r.entries.Perm r'.entries) : r.summary = r'.summary := by
  have hparts (status : Conversion.Status) :
      (r.withStatus status).length = (r'.withStatus status).length := (h.filter _).length_eq
  rw [summary_eq, summary_eq, h.length_eq, hparts, hparts, hparts]

theorem summary_append (entries entries' : List Entry) :
    (Report.mk (entries ++ entries')).summary =
      (Report.mk entries).summary.merge (Report.mk entries').summary := by
  rw [summary, List.foldl_append, foldl_count]
  rfl

/-- Results spread over reports, and a way to merge the counts of these, two at a time. -/
inductive Merging
  /-- No report, which counts nothing. -/
  | none
  | report (results : List (Text × Conversion))
  | both (first second : Merging)

namespace Merging

def results : Merging → List (Text × Conversion)
  | none => []
  | report results => results
  | both first second => first.results ++ second.results

def summary : Merging → Summary
  | none => {}
  | report results => (addAll {} results).summary
  | both first second => first.summary.merge second.summary

theorem summary_eq (m : Merging) : m.summary = (addAll {} m.results).summary := by
  induction m with
  | none => rfl
  | report results => rfl
  | both first second ihFirst ihSecond =>
      have hentries : ((addAll {} (first.results ++ second.results)).entries) =
          (addAll {} first.results).entries ++ (addAll {} second.results).entries := by
        simp [addAll_entries]
      calc (both first second).summary
        _ = (addAll {} first.results).summary.merge (addAll {} second.results).summary :=
          congrArg₂ Summary.merge ihFirst ihSecond
        _ = (Report.mk ((addAll {} first.results).entries ++
            (addAll {} second.results).entries)).summary := (summary_append _ _).symm
        _ = (addAll {} (first.results ++ second.results)).summary := by rw [← hentries]

end Merging

/-- The results of a report come back in the order in which they were added, and fall into three
parts, whose sizes are the counts. However the same results are spread over reports, the counts of
these merge to the counts of the one report, in any order and grouping; the counts of a workbook
are merged so. -/
theorem addAll_counts (results : List (Text × Conversion)) :
    let r := ({} : Report).addAll results
    r.entries = results.map (fun x => ⟨x.1, x.2⟩) ∧ IsParted r ∧
      r.summary = ⟨r.entries.length, (r.withStatus .success).length, (r.withStatus .warning).length,
        (r.withStatus .failed).length⟩ ∧
      (∀ m : Merging, m.results.Perm results → m.summary = r.summary) ∧
      ∀ o : Outcome, (o.reports.flatMap (·.report.entries)).Perm r.entries →
        o.summary = r.summary := by
  intro r
  have hentries : r.entries = results.map entryOf := addAll_entries {} results
  refine ⟨hentries, r.isParted, r.summary_eq, ?_, ?_⟩
  · intro m hm
    rw [m.summary_eq]
    apply summary_perm
    rw [hentries, addAll_entries]
    exact hm.map entryOf
  · intro o ho
    rw [o.summary_eq]
    exact summary_perm ho

theorem addAll_counts_mixed :
    let done : Text × Conversion :=
      ("Total".toList, .succeeded "=B2".toList "$Price".toList [])
    let warned : Text × Conversion :=
      ("Sum".toList, .succeeded "=B2:C9".toList "B2:C9".toList ["several columns".toList])
    let failed : Text × Conversion := ("Open".toList, .failed "=\"x".toList "open quote".toList)
    let silent : Text × Conversion := ("Lost".toList, ⟨[], false, [], "=B2".toList⟩)
    let results := [done, warned, failed, silent]
    let m : Merging := .both (.report [silent, warned]) (.both .none (.report [failed, done]))
    let o : Outcome :=
      { reports := [⟨"Orders".toList, "Orders".toList, addAll {} [failed, warned]⟩,
          ⟨"Rates".toList, "Rates".toList, addAll {} [silent, done]⟩] }
    m.results.Perm results ∧
      (o.reports.flatMap (·.report.entries)).Perm (addAll {} results).entries ∧
      (addAll {} results).summary = ⟨4, 1, 1, 2⟩ ∧ IsParted (addAll {} results) ∧
      m.summary = (addAll {} results).summary ∧ o.summary = (addAll {} results).summary := by
  intro done warned failed silent results m o
  have hm : m.results.Perm results := by decide
  have ho : (o.reports.flatMap (·.report.entries)).Perm (addAll {} results).entries := by decide
  obtain ⟨-, hparted, -, hmerged, houtcome⟩ := addAll_counts results
  exact ⟨hm, ho, by decide, hparted, hmerged m hm, houtcome o ho⟩

end Report

end ColumnFormula
