import Flextunnel.Model.Frontends

/-!
# Requests on the wire

A tunnel request is written in exactly one way and read in exactly one way, so a bridge
that decodes a request and encodes it again forwards the bytes it got. The SOCKS5
front-end has a decoder and an encoder of its own for the same address body; they agree
with the tunnel's on every stream.
-/

set_option autoImplicit false

namespace Flextunnel.Analysis

open Lib Lib.Reader Model

/-! ## The tunnel request -/

variable {bytes : List UInt8} {t : Target}

theorem readRequest_consumed_unique {bytes' rest rest' : List UInt8}
    (h : readRequest.run bytes = .ok (t, rest)) (h' : readRequest.run bytes' = .ok (t, rest')) :
    ∃ consumed, bytes = consumed ++ rest ∧ bytes' = consumed ++ rest' := by
  obtain ⟨-, pre, hwrite, hbytes⟩ := isCodec_request.run_eq_ok_iff.1 h
  obtain ⟨-, pre', hwrite', hbytes'⟩ := isCodec_request.run_eq_ok_iff.1 h'
  have heq : pre = pre' := Except.ok.inj (hwrite.symm.trans hwrite')
  exact ⟨pre, hbytes, heq ▸ hbytes'⟩

/-- **The request header is a bijection between the targets it can carry and the byte
strings it accepts.** What is written is read back with the rest of the stream left
alone, what is read was the encoding of the result, and no two byte strings are read as
one target. -/
theorem requestCodec_bijective :
    (∀ (t : Target) (rest : List UInt8), t.Plain → t.HostFits →
      ∃ bytes, writeRequest t = .ok bytes ∧ readRequest.run (bytes ++ rest) = .ok (t, rest)) ∧
    (∀ (bytes : List UInt8) (t : Target) (rest : List UInt8),
      readRequest.run bytes = .ok (t, rest) →
        t.Plain ∧ t.HostFits ∧
          ∃ consumed, bytes = consumed ++ rest ∧ writeRequest t = .ok consumed) ∧
    (∀ (bytes bytes' : List UInt8) (t : Target) (rest rest' : List UInt8),
      readRequest.run bytes = .ok (t, rest) → readRequest.run bytes' = .ok (t, rest') →
        ∃ consumed, bytes = consumed ++ rest ∧ bytes' = consumed ++ rest') := by
  refine ⟨?_, ?_, ?_⟩
  · intro t rest hplain hfits
    have hwrite := writeRequest_eq_ok_iff.2 ⟨hfits, rfl⟩
    exact ⟨_, hwrite, isCodec_request.run_eq_ok_iff.2 ⟨hplain, _, hwrite, rfl⟩⟩
  · intro bytes t rest hrun
    obtain ⟨hplain, consumed, hwrite, hbytes⟩ := isCodec_request.run_eq_ok_iff.1 hrun
    have hfits := (writeRequest_eq_ok_iff.1 hwrite).1
    exact ⟨hplain, hfits, consumed, hbytes, hwrite⟩
  · intro bytes bytes' t rest rest' hrun hrun'
    exact readRequest_consumed_unique hrun hrun'

/-- A host name and an address, with a byte after each of them. -/
theorem requestCodec_bijective_instance :
    (∃ bytes, writeRequest (.domain "db.corp" 5432) = .ok bytes ∧
      readRequest.run (bytes ++ [7]) = .ok (.domain "db.corp" 5432, [7])) ∧
    (∃ consumed, [1, 1, 10, 0, 0, 1, 0, 80, 9] = consumed ++ [9] ∧
      writeRequest (.ip (.v4 ⟨[10, 0, 0, 1], rfl⟩ 80)) = .ok consumed) ∧
    (∃ consumed : List UInt8, [1, 1, 10, 0, 0, 1, 0, 80, 9] = consumed ++ [9] ∧
      [1, 1, 10, 0, 0, 1, 0, 80] = consumed ++ []) := by
  have hnine : readRequest.run [1, 1, 10, 0, 0, 1, 0, 80, 9] =
      .ok (.ip (.v4 ⟨[10, 0, 0, 1], rfl⟩ 80), [9]) := by decide
  have height : readRequest.run [1, 1, 10, 0, 0, 1, 0, 80] =
      .ok (.ip (.v4 ⟨[10, 0, 0, 1], rfl⟩ 80), []) := by decide
  refine ⟨requestCodec_bijective.1 _ _ trivial (by decide), ?_, ?_⟩
  · exact (requestCodec_bijective.2.1 _ _ _ hnine).2.2
  · exact requestCodec_bijective.2.2 _ _ _ _ _ hnine height

/-! ## The SOCKS5 request -/

theorem clientWriteConnect_eq_ok_iff_writeRequest {body : List UInt8} :
    clientWriteConnect t = .ok ([socksVersion, cmdConnect, 0x00] ++ body) ↔
      writeRequest t = .ok (streamVersion :: body) := by
  rw [clientWriteConnect_eq_ok_iff, writeRequest_eq_ok_iff]
  simp

theorem exists_body_of_clientWriteConnect (h : clientWriteConnect t = .ok bytes) :
    ∃ body, bytes = [socksVersion, cmdConnect, 0x00] ++ body := by
  obtain ⟨-, rfl⟩ := clientWriteConnect_eq_ok_iff.1 h
  exact ⟨t.atyp :: t.addressBytes, rfl⟩

theorem exists_body_of_writeRequest (h : writeRequest t = .ok bytes) :
    ∃ body, bytes = streamVersion :: body := by
  obtain ⟨-, rfl⟩ := writeRequest_eq_ok_iff.1 h
  exact ⟨t.atyp :: t.addressBytes, rfl⟩

/-- Behind its head a CONNECT request is read as the tunnel's body is. -/
theorem readConnectRequest_eq_ok_iff {rest : List UInt8} :
    readConnectRequest.run bytes = .ok (t, rest) ↔
      ∃ body, bytes = [0x05, 0x01, 0x00] ++ body ∧
        readRequest.run (streamVersion :: body) = .ok (t, rest) := by
  rw [isCodec_connect.run_eq_ok_iff]
  simp only [isCodec_request.run_eq_ok_iff]
  constructor
  · rintro ⟨hplain, pre, hwrite, rfl⟩
    obtain ⟨body, rfl⟩ := exists_body_of_clientWriteConnect hwrite
    have htunnel := clientWriteConnect_eq_ok_iff_writeRequest.1 hwrite
    exact ⟨body ++ rest, rfl, hplain, streamVersion :: body, htunnel, rfl⟩
  rintro ⟨body, rfl, hplain, pre, hwrite, hbody⟩
  obtain ⟨consumed, rfl⟩ := exists_body_of_writeRequest hwrite
  obtain rfl : body = consumed ++ rest := (List.cons.inj hbody).2
  have hconnect := clientWriteConnect_eq_ok_iff_writeRequest.2 hwrite
  exact ⟨hplain, _, hconnect, rfl⟩

/-- **The SOCKS5 front-end reads the address body of a tunnel request.** It accepts a stream exactly
when this is the CONNECT head followed by a body the tunnel's decoder accepts; both return the same
target and leave the same bytes, and the encoder writes what was consumed. -/
theorem socksRequest_agrees :
    (∀ (bytes : List UInt8) (t : Target) (rest : List UInt8),
      readConnectRequest.run bytes = .ok (t, rest) ↔
        ∃ body, bytes = [0x05, 0x01, 0x00] ++ body ∧
          readRequest.run (streamVersion :: body) = .ok (t, rest)) ∧
    (∀ (bytes : List UInt8) (t : Target) (rest : List UInt8),
      readConnectRequest.run bytes = .ok (t, rest) →
        ∃ consumed, bytes = [0x05, 0x01, 0x00] ++ consumed ++ rest ∧
          writeRequest t = .ok (streamVersion :: consumed)) ∧
    (∀ (t : Target) (bytes rest : List UInt8), t.Plain → clientWriteConnect t = .ok bytes →
      readConnectRequest.run (bytes ++ rest) = .ok (t, rest)) := by
  refine ⟨?_, ?_, ?_⟩
  · intro bytes t rest
    exact readConnectRequest_eq_ok_iff
  · intro bytes t rest hrun
    obtain ⟨-, pre, hwrite, rfl⟩ := isCodec_connect.run_eq_ok_iff.1 hrun
    obtain ⟨consumed, rfl⟩ := exists_body_of_clientWriteConnect hwrite
    exact ⟨consumed, rfl, clientWriteConnect_eq_ok_iff_writeRequest.1 hwrite⟩
  · intro t bytes rest hplain hwrite
    exact isCodec_connect.run_eq_ok_iff.2 ⟨hplain, bytes, hwrite, rfl⟩

/-- A CONNECT request for an address, and one for a host name. -/
theorem socksRequest_agrees_instance :
    (∃ consumed, [5, 1, 0, 1, 10, 0, 0, 1, 0, 80, 9] = [0x05, 0x01, 0x00] ++ consumed ++ [9] ∧
      writeRequest (.ip (.v4 ⟨[10, 0, 0, 1], rfl⟩ 80)) = .ok (streamVersion :: consumed)) ∧
    readConnectRequest.run ([5, 1, 0, 3, 2, 100, 98, 0, 80] ++ [9]) =
      .ok (.domain "db" 80, [9]) := by
  have hrun : readConnectRequest.run [5, 1, 0, 1, 10, 0, 0, 1, 0, 80, 9] =
      .ok (.ip (.v4 ⟨[10, 0, 0, 1], rfl⟩ 80), [9]) := by decide
  refine ⟨socksRequest_agrees.2.1 _ _ _ hrun, ?_⟩
  exact socksRequest_agrees.2.2 _ _ _ trivial (by decide)

end Flextunnel.Analysis
