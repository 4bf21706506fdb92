import Mathlib
import ColumnFormula.Workbook.Basic

namespace ColumnFormula

namespace Report

namespace Summary

theorem merge_count (s t : Summary) (status : Conversion.Status) :
    (s.merge t).count status = s.merge (t.count status) := by
  cases status <;> simp [count, merge, Nat.add_assoc]

end Summary

theorem status_iff (e : Entry) :
    (e.status = .success ↔ e.result.success ∧ e.result.warnings = []) ∧
      (e.status = .warning ↔ e.result.success ∧ e.result.warnings ≠ []) ∧
      (e.status = .failed ↔ e.result.success = false) := by
  cases hsuccess : e.result.success <;> cases hwarnings : e.result.warnings <;>
    simp [Entry.status, Conversion.status, hsuccess, hwarnings]

theorem foldl_count (s : Summary) (entries : List Entry) :
    entries.foldl (fun s e => s.count e.status) s = s.merge (Report.mk entries).summary := by
  -- Merging commutes with one more count, and the counts so far are merged with none.
  change entries.foldl _ (s.merge {}) = _
  exact List.foldl_hom s.merge fun t e => s.merge_count t e.status

theorem summary_cons (e : Entry) (entries : List Entry) :
    (Report.mk (e :: entries)).summary =
      (Summary.count {} e.status).merge (Report.mk entries).summary := by
  rw [← foldl_count]
  rfl

theorem summary_eq (r : Report) :
    r.summary = ⟨r.entries.length, (r.withStatus .success).length, (r.withStatus .warning).length,
      (r.withStatus .failed).length⟩ := by
  obtain ⟨entries⟩ := r
  induction entries with
  | nil => rfl
  | cons e entries ih =>
      rw [summary_cons, ih]
      cases hstatus : e.status <;>
        simp [withStatus, Summary.count, Summary.merge, hstatus, Nat.add_comm]

theorem summary_total (r : Report) : r.summary.total = r.entries.length := by
  rw [summary_eq]

theorem summary_succeeded (r : Report) :
    r.summary.successful + r.summary.withWarnings = r.entries.countP (·.result.success) := by
  rw [summary_eq]
  simp only [withStatus, ← List.countP_eq_length_filter]
  induction r.entries with
  | nil => rfl
  | cons e entries ih =>
      rw [List.countP_cons, List.countP_cons, List.countP_cons, ← ih]
      cases hsuccess : e.result.success <;> cases hnone : e.result.warnings.isEmpty <;>
        simp [Entry.status, Conversion.status, hsuccess, hnone] <;> omega

theorem summary_failed (r : Report) :
    r.summary.failed = r.entries.countP (!·.result.success) := by
  rw [summary_eq]
  simp only [withStatus, ← List.countP_eq_length_filter]
  congr 1
  funext e
  rw [Bool.eq_iff_iff, beq_iff_eq, (status_iff e).2.2, Bool.not_eq_true']

end Report

theorem Outcome.summary_eq (o : Outcome) :
    o.summary = (Report.mk (o.reports.flatMap (·.report.entries))).summary := by
  rw [Outcome.summary, Report.summary, List.foldl_flatMap]
  congr 1
  funext s r
  exact (Report.foldl_count s r.report.entries).symm

end ColumnFormula
