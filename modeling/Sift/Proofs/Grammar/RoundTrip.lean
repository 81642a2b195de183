import Sift.Proofs.Grammar.Image
import Sift.Proofs.Grammar.Lexemes

/-!
# Writing and reading

The written form of an expression is read back as the same expression exactly if the expression is
well formed, and the well-formed expressions are exactly those that some text writes: the printer
and the reader are inverse to each other on the image of the reader.
-/

namespace Sift

/-- A well-formed expression is read back from its text. -/
theorem read_written_of_wellFormed {e : Expr String} (wf : e.WellFormed) :
    Expr.read 0 e.written = .ok e := by
  obtain ⟨spanned, lexed, same⟩ := tokens_written e wf
  refine Expr.read_of_reads lexed same (Reader.reads_whole e wf ?_)
  rw [Reader.stepsFor, List.length_append, List.length_singleton, Nat.add_sub_cancel]
  omega

/-- An expression is read back from its text if and only if it is well formed, and the well-formed
expressions are the ones that texts write, with whatever limit on tests they are read. -/
theorem read_written_iff_wellFormed (e : Expr String) :
    (Expr.read 0 e.written = .ok e ↔ e.WellFormed) ∧
      ((∃ limit text, Expr.read limit text = .ok e) ↔ e.WellFormed) := by
  refine ⟨⟨wellFormed_of_read, read_written_of_wellFormed⟩, ?_, ?_⟩
  · rintro ⟨limit, text, read⟩
    exact wellFormed_of_read read
  · exact fun wf => ⟨0, e.written, read_written_of_wellFormed wf⟩

end Sift
