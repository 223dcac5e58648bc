import Flextunnel.Model.Ipc

/-!
# A tunnel over the control channel

One connection carries the line of a `Connect` request and, in the same bytes, the frames of the
tunnel it asks for. The line reader stops right behind the line, and the frame reader takes one
frame after another, whatever pieces the connection delivers them in.
-/

set_option autoImplicit false

namespace Flextunnel.Analysis

open Lib Model

/-! ## Frames -/

section Frames

variable {tunnel : TunnelEnd} {sent : List UInt8} {reader : Chunks UInt8}

theorem length_be32 (n : Nat) : (Reader.be32 n).length = 4 := rfl

theorem copyFromFrames_empty (hopen : tunnel.ended sent = false) {further : List UInt8}
    (hbytes : reader.contents = Reader.be32 0 ++ further) :
    ∃ rest, copyFromFrames tunnel sent reader = ⟨[], .finished, rest⟩ ∧
      rest.contents = further := by
  obtain ⟨rest, hhead, hrest⟩ := Chunks.readExact_eq hbytes
  rw [length_be32] at hhead
  refine ⟨rest, ?_, hrest⟩
  rw [copyFromFrames, if_neg (by simp [hopen])]
  split
  next h =>
    rw [hhead] at h
    cases h
  next head h =>
    rw [hhead] at h
    cases h
    rw [if_pos (Reader.ofBe_be32 (by decide))]

/-- A frame is written to the tunnel as one piece. -/
theorem copyFromFrames_frame (hopen : tunnel.ended sent = false) {body after : List UInt8}
    (htakes : tunnel.takes sent body = true) (hbody : body ≠ []) (hlen : body.length ≤ maxFrame)
    (hbytes : reader.contents = Reader.be32 body.length ++ (body ++ after)) :
    ∃ rest, rest.contents = after ∧ copyFromFrames tunnel sent reader =
      { copyFromFrames tunnel (sent ++ body) rest with
        writes := body :: (copyFromFrames tunnel (sent ++ body) rest).writes } := by
  obtain ⟨mid, hhead, hmid⟩ := Chunks.readExact_eq hbytes
  obtain ⟨rest, hread, hrest⟩ := Chunks.readExact_eq hmid
  have hvalue : Reader.ofBe (Reader.be32 body.length) = body.length :=
    Reader.ofBe_be32 (Nat.lt_of_le_of_lt hlen (by decide))
  rw [length_be32] at hhead
  refine ⟨rest, hrest, ?_⟩
  rw [copyFromFrames, if_neg (by simp [hopen])]
  split
  next h =>
    rw [hhead] at h
    cases h
  next head h =>
    rw [hhead] at h
    cases h
    have hpos : body.length ≠ 0 := fun h => hbody (List.length_eq_zero_iff.1 h)
    simp only [hvalue, hpos, if_false, Nat.not_lt.2 hlen]
    split
    next h =>
      rw [hvalue, hread] at h
      cases h
    next got h =>
      rw [hvalue, hread] at h
      cases h
      rw [if_pos htakes]

/-- **Frames are read back as the payload they were made from**, and nothing behind them is
taken; neither the reads the frames were made by nor the pieces they arrive in matter. -/
theorem copyFromFrames_copyToFrames (htakes : ∀ sent piece, tunnel.takes sent piece = true)
    {source : Chunks UInt8} {further : List UInt8}
    (hbytes : reader.contents = copyToFrames source ++ further)
    (hopen : ∀ part, part <+: source.contents → tunnel.ended (sent ++ part) = false) :
    ∃ writes rest, copyFromFrames tunnel sent reader = ⟨writes, .finished, rest⟩ ∧
      writes.flatten = source.contents ∧ rest.contents = further := by
  fun_induction copyToFrames source generalizing reader sent with
  | case1 source ih =>
    have hsplit := source.read_append maxFrame
    have hnow : tunnel.ended sent = false := by simpa using hopen [] List.nil_prefix
    by_cases hempty : (source.read maxFrame).1 = []
    · have hdone : source.contents = [] := (Chunks.read_eq_nil_iff (by decide)).1 hempty
      rw [hempty] at hbytes
      obtain ⟨rest, hframes, hrest⟩ := copyFromFrames_empty hnow (by simpa using hbytes)
      exact ⟨[], rest, hframes, hdone.symm, hrest⟩
    rw [if_neg (by simpa using hempty), List.append_assoc, List.append_assoc] at hbytes
    obtain ⟨mid, hmid, hframes⟩ := copyFromFrames_frame hnow (htakes ..) hempty
      (source.length_read_le _) hbytes
    obtain ⟨writes, rest, hmore, hwrites, hrest⟩ := ih (by simpa using hempty) hmid
      (fun part hpart => by
        rw [List.append_assoc]
        refine hopen _ ?_
        rw [← hsplit]
        exact (List.prefix_append_right_inj _).2 hpart)
    refine ⟨(source.read maxFrame).1 :: writes, rest, ?_, ?_, hrest⟩
    · rw [hframes, hmore]
    · rw [List.flatten_cons, hwrites, hsplit]

end Frames

/-! ## The request line -/

theorem controlFree_toVec (request : IpcRequest) : JsonText.ControlFree request.toVec := by
  cases request with
  | status | connPath =>
    refine JsonText.controlFree_object fun m hm => ?_
    obtain rfl := List.mem_singleton.1 hm
    exact JsonText.controlFree_string _
  | connect host port =>
    refine JsonText.controlFree_object fun m hm => ?_
    simp only [List.mem_cons, List.not_mem_nil, or_false] at hm
    obtain rfl | rfl | rfl := hm
    · exact JsonText.controlFree_string _
    · exact JsonText.controlFree_string _
    · exact JsonText.controlFree_number _

/-! ## Serving the connection -/

section Serve

variable {S C : Type} {server : ControlServer S C} {n : Nat} {stream : Chunks UInt8}

/-- The line of a `Connect` request is parsed, and the tunnel starts right behind it. -/
theorem serveConnection_connect {host : String} {port : UInt16} {further : List UInt8}
    (hbytes : stream.contents = (IpcRequest.connect host port).toVec ++ 10 :: further)
    (hlen : (IpcRequest.connect host port).toVec.length ≤ maxLine)
    (hparse : server.fromSlice (IpcRequest.connect host port).toVec = .ok (.connect host port)) :
    ∃ rest, rest.contents = further ∧ server.serveConnection n stream =
      { server.serveTunnel n rest host port with
        events := .parsed (.ok (.connect host port)) ::
          (server.serveTunnel n rest host port).events } := by
  obtain ⟨rest, hread, hrest⟩ :=
    readLineCapped_controlFree (controlFree_toVec (.connect host port)) hlen hbytes
  refine ⟨rest, hrest, ?_⟩
  rw [ControlServer.serveConnection]
  split
  next e h =>
    rw [hread] at h
    cases h
  next total h =>
    rw [hread] at h
    cases h
    rw [if_neg (Nat.succ_ne_zero _)]
    simp only [hread, hparse]

theorem openTunnel_eq_ok {replies : SessionReplies S C} {host bare : String} {port : UInt16}
    {tunnel : TunnelEnd} (hhost : validateRemoteHost host = .ok bare) (hport : port ≠ 0)
    (hopens : replies.opens (.domain bare port) = .ok tunnel) :
    replies.openTunnel host port = .ok (.domain bare port, tunnel) := by
  simp only [SessionReplies.openTunnel, hhost, hport, hopens, bind, Except.bind, if_false]
  rfl

/-- **The session relays exactly the payload of a tunnel.** The line of a `Connect` request and
right behind it the frames of a payload and further bytes arrive in any pieces. If the target is
valid, the tunnel opens, no write fails and the download does not end before the payload is through,
the session writes the payload to the tunnel and half-closes it, and is left at the bytes behind the
empty frame. -/
theorem tunnel_relays_payload {host bare : String} {port : UInt16} {tunnel : TunnelEnd}
    {source : Chunks UInt8} {further : List UInt8}
    (hbytes : stream.contents =
      (IpcRequest.connect host port).toVec ++ 10 :: (copyToFrames source ++ further))
    (hlen : (IpcRequest.connect host port).toVec.length ≤ maxLine)
    (hparse : server.fromSlice (IpcRequest.connect host port).toVec = .ok (.connect host port))
    (hhost : validateRemoteHost host = .ok bare) (hport : port ≠ 0)
    (hopens : (server.replies n).opens (.domain bare port) = .ok tunnel)
    (hresponds : server.responds n = true)
    (htakes : ∀ sent piece, tunnel.takes sent piece = true)
    (hshuts : ∀ sent, tunnel.shutsDown sent = true)
    (hopen : ∀ part, part <+: source.contents → tunnel.ended part = false) :
    ∃ writes : List (List UInt8),
      (server.serveConnection n stream).events =
          [.parsed (.ok (.connect host port)), .opened (.domain bare port),
              .responded .connected] ++
            writes.map .wrote ++ [.shutdown] ∧
        writes.flatten = source.contents ∧
        (server.serveConnection n stream).rest.contents = further := by
  obtain ⟨mid, hmid, hserve⟩ := serveConnection_connect hbytes hlen hparse
  have hsent : ∀ part, part <+: source.contents → tunnel.ended ([] ++ part) = false := hopen
  obtain ⟨writes, rest, hupload, hwrites, hrest⟩ :=
    copyFromFrames_copyToFrames htakes hmid hsent
  have htunnel : server.serveTunnel n mid host port =
      ⟨[.opened (.domain bare port), .responded .connected] ++ writes.map .wrote ++ [.shutdown],
        rest⟩ := by
    rw [ControlServer.serveTunnel, openTunnel_eq_ok hhost hport hopens]
    simp only [hresponds, if_true, hupload, hshuts, and_self]
  rw [hserve, htunnel]
  exact ⟨writes, rfl, hwrites, hrest⟩

def relayServer (request : IpcRequest) : ControlServer Unit Unit where
  fromSlice bytes := if bytes = request.toVec then .ok request else .error "expected value"
  replies _ :=
    { status := none, connPath := none,
      opens := fun _ => .ok
        { ended := fun _ => false, takes := fun _ _ => true, shutsDown := fun _ => true } }
  responds _ := true

theorem relayServer_fromSlice (request : IpcRequest) :
    (relayServer request).fromSlice request.toVec = .ok request := by
  simp [relayServer]

def threeBytes : Chunks UInt8 := .ofPieces [[1, 2], [3]]

def threeByteStream : Chunks UInt8 :=
  .ofPieces [(IpcRequest.connect "db" 22).toVec, 10 :: (copyToFrames threeBytes ++ [9])]

theorem tunnel_relays_three_bytes :
    ∃ writes : List (List UInt8),
      ((relayServer (.connect "db" 22)).serveConnection 0 threeByteStream).events =
          [.parsed (.ok (.connect "db" 22)), .opened (.domain "db" 22), .responded .connected] ++
            writes.map .wrote ++ [.shutdown] ∧
        writes.flatten = [1, 2, 3] ∧
        ((relayServer (.connect "db" 22)).serveConnection 0 threeByteStream).rest.contents =
          [9] := by
  have hbytes : threeByteStream.contents =
      (IpcRequest.connect "db" 22).toVec ++ 10 :: (copyToFrames threeBytes ++ [9]) := by
    simp [threeByteStream]
  exact tunnel_relays_payload hbytes (by decide +kernel) (relayServer_fromSlice _)
    (by decide +kernel) (by decide) rfl rfl (fun _ _ => rfl) (fun _ => rfl) (fun _ _ => rfl)

/-! ## A line over the cap -/

/-- A line over the cap is not even parsed. -/
theorem serveConnection_overCap (h : OverCap stream.contents) :
    (server.serveConnection n stream).events = [] := by
  obtain ⟨rest, hread, -⟩ := readLineCapped_overCap h
  rw [ControlServer.serveConnection]
  split
  · rfl
  next total h =>
    rw [hread] at h
    cases h

end Serve

def paddedHost (n : Nat) : String := String.ofList ('a' :: List.replicate n ' ')

theorem validateRemoteHost_paddedHost (n : Nat) : validateRemoteHost (paddedHost n) = .ok "a" := by
  have hspaces : ∀ c ∈ List.replicate n ' ', Text.isWhitespace c = true := by
    intro c hc
    rw [List.eq_of_mem_replicate hc]
    decide
  have htrim : Text.trim (paddedHost n) = "a" := by
    rw [Text.trim, paddedHost, String.toList_ofList, Text.trimList,
      List.dropWhile_cons_of_neg (by decide), List.reverse_cons, List.reverse_replicate,
      List.dropWhile_append_of_pos hspaces]
    rfl
  simp only [validateRemoteHost, htrim]
  decide +kernel

theorem lt_length_toVec_paddedHost (n : Nat) (port : UInt16) :
    n < (IpcRequest.connect (paddedHost n) port).toVec.length := by
  have hascii : ∀ c ∈ 'a' :: List.replicate n ' ', c.toNat < 128 := by
    intro c hc
    cases List.mem_cons.1 hc with
    | inl h => rw [h]; decide
    | inr h => rw [List.eq_of_mem_replicate h]; decide
  have hutf : Reader.utf8 (paddedHost n) = 97 :: List.replicate n 32 := by
    rw [paddedHost, Reader.utf8_ofList_of_ascii hascii, List.map_cons, List.map_replicate]
    rfl
  have hsize : JsonText.stringSize (paddedHost n) = n + 3 := by
    have hone : JsonText.escapedSize 97 = 1 ∧ JsonText.escapedSize 32 = 1 := by decide
    rw [JsonText.stringSize, hutf, List.map_cons, List.map_replicate, List.sum_cons, hone.1,
      hone.2, List.sum_replicate_nat]
    omega
  rw [IpcRequest.toVec, JsonText.length_object]
  simp only [List.map_cons, List.map_nil, JsonText.arraySize, List.sum_cons, JsonText.length_string,
    hsize]
  omega

/-- A valid host whose request is not parsed: its line is over the cap. -/
theorem padded_host_not_parsed :
    let request := IpcRequest.connect (paddedHost maxLine) 22
    let server := relayServer request
    let stream := Chunks.ofPieces [request.toVec ++ 10 :: copyToFrames threeBytes]
    server.fromSlice request.toVec = .ok request ∧
      validateRemoteHost (paddedHost maxLine) = .ok "a" ∧
      (∃ tunnel, (server.replies 0).opens (.domain "a" 22) = .ok tunnel ∧
        (∀ sent piece, tunnel.takes sent piece = true) ∧
        (∀ sent, tunnel.shutsDown sent = true) ∧ ∀ sent, tunnel.ended sent = false) ∧
      server.responds 0 = true ∧
      (server.serveConnection 0 stream).events = [] := by
  generalize hn : maxLine = n
  intro request server stream
  have hbytes : stream.contents = request.toVec ++ 10 :: copyToFrames threeBytes := by
    rw [Chunks.contents_ofPieces, List.flatten_singleton]
  have hlong : maxLine < request.toVec.length := hn ▸ lt_length_toVec_paddedHost n 22
  have hover : OverCap stream.contents := by
    rw [hbytes]
    exact overCap_append (controlFree_toVec request) hlong _
  exact ⟨relayServer_fromSlice request, validateRemoteHost_paddedHost n,
    ⟨_, rfl, fun _ _ => rfl, fun _ => rfl, fun _ => rfl⟩, rfl, serveConnection_overCap hover⟩

end Flextunnel.Analysis
