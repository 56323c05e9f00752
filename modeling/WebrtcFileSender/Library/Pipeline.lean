import Mathlib.Data.List.Basic

/-!
Contract: copying a list through a pipeline that may stop early or lose pieces.

The sink has taken `sink`, its counter says `count`, and `ahead` is everything
that can still come to it, in order.

Owns: the conservation law of such a pipeline and its rules: the pipeline is cut
off, a piece is taken, a piece is lost, the counter reaches the length of the
source; and the order law, which says what the sink holds when pieces were lost.

Does not own: what the pieces are carried by.
-/

namespace Pipeline

universe u

variable {α : Type u} {source sink ahead shorter piece : List α} {count : Nat}

/-- Either nothing was lost, and what was taken followed by what can come is an
initial part of the source, or something was lost for good and the counter can no
longer reach the length of the source. -/
def Conserved (source sink ahead : List α) (count : Nat) : Prop :=
  (sink ++ ahead <+: source ∧ count = sink.length) ∨
    count + ahead.length < source.length

theorem Conserved.start (cut : ahead <+: source) : Conserved source [] ahead 0 :=
  .inl ⟨cut, rfl⟩

/-- Less may come than before. -/
theorem Conserved.truncate
    (conserved : Conserved source sink ahead count)
    (cut : shorter <+: ahead) :
    Conserved source sink shorter count := by
  rcases conserved with ⟨initial, counted⟩ | short
  · left
    refine ⟨?_, counted⟩
    have stillInitial : sink ++ shorter <+: sink ++ ahead :=
      (List.prefix_append_right_inj sink).mpr cut
    exact stillInitial.trans initial
  · right
    have shorterLength := cut.length_le
    omega

/-- The sink takes the piece that comes next. -/
theorem Conserved.take
    (conserved : Conserved source sink (piece ++ ahead) count) :
    Conserved source (sink ++ piece) ahead (count + piece.length) := by
  rcases conserved with ⟨initial, counted⟩ | short
  · left
    rw [List.append_assoc]
    refine ⟨initial, ?_⟩
    rw [List.length_append, counted]
  · right
    rw [List.length_append] at short
    omega

/-- The piece that comes next is lost. -/
theorem Conserved.lose
    (conserved : Conserved source sink (piece ++ ahead) count) :
    Conserved source sink ahead count := by
  by_cases empty : piece = []
  · rw [empty] at conserved
    exact conserved
  · right
    have pieceLength : 0 < piece.length := List.length_pos_iff.mpr empty
    rcases conserved with ⟨initial, counted⟩ | short
    · have bounded := initial.length_le
      simp only [List.length_append] at bounded
      omega
    · rw [List.length_append] at short
      omega

theorem Conserved.count_le
    (conserved : Conserved source sink ahead count) :
    count + ahead.length ≤ source.length := by
  rcases conserved with ⟨initial, counted⟩ | short
  · have bounded := initial.length_le
    rw [List.length_append] at bounded
    omega
  · omega

/-- A counter that has reached the length of the source is right. -/
theorem Conserved.complete
    (conserved : Conserved source sink ahead count)
    (reached : source.length ≤ count) :
    sink = source ∧ ahead = [] := by
  rcases conserved with ⟨initial, counted⟩ | short
  · have bounded := initial.length_le
    rw [List.length_append] at bounded
    have nothing : ahead = [] := List.length_eq_zero_iff.mp (by omega)
    rw [nothing, List.append_nil] at initial
    exact ⟨initial.eq_of_length_le (by omega), nothing⟩
  · omega

/-- What was taken followed by what can come is the source with pieces left out, and
an initial part of it when nothing is ever lost. -/
structure Ordered (lossless : Prop) (source sink ahead : List α) : Prop where
  sublist : (sink ++ ahead).Sublist source
  initial : lossless → sink ++ ahead <+: source

namespace Ordered

variable {lossless : Prop}

theorem start (cut : ahead <+: source) : Ordered lossless source [] ahead :=
  ⟨cut.sublist, fun _ => cut⟩

/-- Less may come than before. -/
theorem truncate (ordered : Ordered lossless source sink ahead) (cut : shorter <+: ahead) :
    Ordered lossless source sink shorter := by
  have stillInitial : sink ++ shorter <+: sink ++ ahead :=
    (List.prefix_append_right_inj sink).mpr cut
  exact ⟨stillInitial.sublist.trans ordered.sublist, fun keeps =>
    stillInitial.trans (ordered.initial keeps)⟩

/-- The sink takes the piece that comes next. -/
theorem take (ordered : Ordered lossless source sink (piece ++ ahead)) :
    Ordered lossless source (sink ++ piece) ahead := by
  obtain ⟨sublist, initial⟩ := ordered
  rw [← List.append_assoc] at sublist initial
  exact ⟨sublist, initial⟩

/-- The piece that comes next is lost. -/
theorem lose (ordered : Ordered lossless source sink (piece ++ ahead))
    (loses : ¬ lossless ∨ piece = []) :
    Ordered lossless source sink ahead := by
  rcases loses with lossy | empty
  · have skipped : (sink ++ ahead).Sublist (sink ++ (piece ++ ahead)) :=
      (List.sublist_append_right piece ahead).append_left sink
    exact ⟨skipped.trans ordered.sublist, fun keeps => absurd keeps lossy⟩
  · rwa [empty, List.nil_append] at ordered

/-- What the sink holds, whatever may still come. -/
theorem settled (ordered : Ordered lossless source sink ahead) :
    Ordered lossless source sink [] :=
  ordered.truncate List.nil_prefix

end Ordered

end Pipeline
