import UserAgentWorker.Scalars.Register

namespace UserAgentProof

open Arrow UserAgentModel

theorem batching_and_order (ex : Externals) (f : ScalarFunction) (member : f ∈ register ex) (col : ArrayRef) :
    (∀ pieces, Concatenates pieces col →
      (∀ outs, pieces.mapM (onColumn f) = .ok outs → ∃ out, onColumn f col = .ok out ∧ Concatenates outs out) ∧
      (∀ e, pieces.mapM (onColumn f) = .error e ↔ onColumn f col = .error e) ∧
      ∀ e, onColumn f col = .error e ↔ ∃ piece ∈ pieces, onColumn f piece = .error e) ∧
    (∀ positions, positions.Perm (List.range col.len) →
      onColumn f (col.take positions) = (onColumn f col).map fun out => out.take positions) ∧
    ∀ out, onColumn f col = .ok out → out.len = col.len := by
  obtain ⟨row, _, rowwise⟩ := register_rowwise member
  refine ⟨?_, ?_, ?_⟩
  · intro pieces cut
    refine ⟨?_, rowwise.pieces_error cut, rowwise.error_iff_piece cell_alike cut⟩
    intro outs success
    exact rowwise.pieces_ok cut success
  · intro positions all
    exact rowwise.take cell_alike all
  · intro out success
    exact rowwise.len success

theorem batching_and_order_parse :
    let f := UaParse.scalar (constantEngine unmatched)
    let pieces := [textColumn.take [0], textColumn.take [1]]
    (∀ e, pieces.mapM (onColumn f) = .error e ↔ onColumn f textColumn = .error e) ∧
      onColumn f (textColumn.take [1, 0]) = (onColumn f textColumn).map fun out => out.take [1, 0] := by
  intro f pieces
  obtain ⟨cuts, orders, _⟩ := batching_and_order (constantEngine unmatched) f (by simp [register, f]) textColumn
  have cut : Concatenates pieces textColumn := ⟨by simp [pieces, ArrayRef.take], rfl⟩
  exact ⟨(cuts pieces cut).2.1, orders [1, 0] (by decide)⟩

end UserAgentProof
