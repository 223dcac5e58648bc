import Flextunnel.Model.Ipc

/-!
# Reading a capped line

`read_line_capped` reads under a limit that it computes anew in every turn of its loop, from
how much of the line it already has. A turn ends at a line end, at the limit, or at the end of
the connection, and the loop tells these apart by the last byte it has.
-/

set_option autoImplicit false

namespace Flextunnel.Analysis

open Lib Model

theorem readLineCapped_congr {reader other : Chunks UInt8}
    (h : other.contents = reader.contents) :
    (readLineCapped other []).result = (readLineCapped reader []).result ∧
      (readLineCapped other []).line = (readLineCapped reader []).line ∧
      (readLineCapped other []).rest.contents = (readLineCapped reader []).rest.contents := by
  by_cases hover : OverCap reader.contents
  · obtain ⟨rest, hout, hrest⟩ := readLineCapped_overCap hover
    obtain ⟨rest', hout', hrest'⟩ := readLineCapped_overCap (h ▸ hover : OverCap other.contents)
    rw [hout, hout', hrest, hrest', h]
    exact ⟨rfl, rfl, rfl⟩
  obtain ⟨rest, hout, hrest⟩ := readLineCapped_line hover
  obtain ⟨rest', hout', hrest'⟩ := readLineCapped_line (h ▸ hover : ¬ OverCap other.contents)
  rw [hout, hout', hrest, hrest', h]
  exact ⟨rfl, rfl, rfl⟩

/-- **A capped line is read by its bytes alone, wherever the connection was cut.** The read fails
exactly if the cap and one byte are there without a line end; otherwise it takes what stands through
the first line end, or everything, and keeps it without the CR and LF bytes at its end. -/
theorem read_line_capped_by_bytes (reader : Chunks UInt8) :
    let bytes := reader.contents
    let out := readLineCapped reader []
    ((∃ e, out.result = .error e) ↔
        maxLine + 1 ≤ bytes.length ∧ 10 ∉ bytes.take (maxLine + 1)) ∧
      (∀ n, out.result = .ok n →
        n = (through 10 bytes).length ∧
          out.line = (through 10 bytes).rdropWhile (fun b => b == 10 || b == 13) ∧
          out.rest.contents = bytes.drop n) ∧
      out.result ≠ .error .overflow ∧
      ∀ other : Chunks UInt8, other.contents = bytes →
        (readLineCapped other []).result = out.result ∧
          (readLineCapped other []).line = out.line ∧
          (readLineCapped other []).rest.contents = out.rest.contents := by
  intro bytes out
  -- where it was cut first, and then the two cases of a line
  refine and_assoc.1 (and_assoc.1 ⟨?_, fun other hother => readLineCapped_congr hother⟩)
  by_cases hover : OverCap bytes
  · obtain ⟨rest, hout, -⟩ := readLineCapped_overCap hover
    have hout : out = _ := hout
    rw [hout]
    exact ⟨⟨⟨fun _ => hover, fun _ => ⟨_, rfl⟩⟩, by simp⟩, by simp⟩
  obtain ⟨rest, hout, hrest⟩ := readLineCapped_line hover
  have hout : out = _ := hout
  rw [hout]
  refine ⟨⟨⟨by simp, fun h => absurd h hover⟩, fun n hn => ?_⟩, by simp⟩
  cases hn
  exact ⟨rfl, rfl, hrest⟩

end Flextunnel.Analysis
