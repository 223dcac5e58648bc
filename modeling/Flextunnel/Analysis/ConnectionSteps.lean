import Flextunnel.Analysis.TunnelFrames
import Flextunnel.Model.ControlChannel

/-!
# The two ends of a control connection

A call of `IpcClient::request` and the task that serves its connection work on the same bytes
from both ends. Every move of either end keeps the two in step.
-/

set_option autoImplicit false

namespace Flextunnel.Analysis

open Lib Model

variable {S C : Type} {json : ControlJson S C}

/-! ## What a call reads -/

/-- A response within the cap is read back, and nothing more. -/
theorem readResponse_toVec (hjson : json.Lawful) {response : IpcResponse S C}
    (hlen : (json.toVec response).length ≤ maxLine) {bytes : Chunks UInt8} {more : List UInt8}
    (hbytes : bytes.contents = json.toVec response ++ 10 :: more) :
    json.readResponse bytes = (.ok response, more) := by
  obtain ⟨rest, hread, hrest⟩ :=
    readLineCapped_controlFree (hjson.controlFree response) hlen hbytes
  simp only [ControlJson.readResponse, hread, Nat.add_eq_zero_iff, one_ne_zero, and_false,
    if_false, hjson.response_toVec, hrest]
  rfl

/-- A call that takes a response from a part of the line has taken the whole of it. -/
theorem readResponse_cutOff (hjson : json.Lawful) {response other : IpcResponse S C}
    (hlen : (json.toVec response).length ≤ maxLine) {bytes : Chunks UInt8}
    (hbytes : bytes.contents <+: json.toVec response ++ [10])
    (hread : (json.readResponse bytes).1 = .ok other) : other = response := by
  rcases List.prefix_concat_iff.1 hbytes with hwhole | hpart
  · rw [readResponse_toVec hjson hlen hwhole] at hread
    exact (Except.ok.inj hread).symm
  have hfree : JsonText.ControlFree bytes.contents :=
    fun b hb => hjson.controlFree response b (hpart.subset hb)
  obtain ⟨rest, hline, -⟩ := readLineCapped_cutOff hfree (hpart.length_le.trans hlen)
  simp only [ControlJson.readResponse, hline] at hread
  split at hread
  · cases hread
  obtain ⟨response', hok, rfl⟩ : ∃ r, json.response bytes.contents = .ok r ∧ r = other := by
    cases hresult : json.response bytes.contents with
    | ok r =>
      rw [hresult] at hread
      exact ⟨r, rfl, Except.ok.inj hread⟩
    | error e =>
      rw [hresult] at hread
      cases hread
  have hsame := hjson.whole response _ _ hpart hok
  rw [hsame, hjson.response_toVec] at hok
  exact (Except.ok.inj hok).symm

theorem lineReady_controlFree {line : List UInt8} (hline : JsonText.ControlFree line)
    (hready : lineReady line false) : maxLine < line.length := by
  have hmem : 10 ∉ line := hline.notMem (by decide)
  simpa [lineReady, hmem] using hready

theorem isPrefix_of_append_concat {line part out : List UInt8} (h : part ++ out = line ++ [10])
    (hout : out ≠ []) : part <+: line := by
  refine (List.prefix_concat_iff.1 ⟨out, h⟩).resolve_left fun hwhole => hout ?_
  rw [hwhole] at h
  exact List.append_right_eq_self.1 h

/-! ## The two ends of a connection -/

/-- Where a response is on its way to the command, by the task that sends it and the bytes the
command has not read: not all of it sent, all of it there, or cut off at the end of the
task. -/
inductive Delivery (frame : List UInt8) : ServeTask → List UInt8 → Prop
  | writing {out got : List UInt8} (after : AfterResponse) (hout : out ≠ [])
      (hgot : got ++ out = frame) : Delivery frame (.writing out after) got
  | whole : Delivery frame .reading frame
  | relaying (more : List UInt8) : Delivery frame .relaying (frame ++ more)
  | cutOff {got : List UInt8} (hgot : got <+: frame) : Delivery frame .ended got
  | overrun (more : List UInt8) : Delivery frame .ended (frame ++ more)

/-- Where the `n`-th request of connection `i` stands once it is written: on its way, read,
lost with the end of the task, or answered. -/
inductive Awaiting (json : ControlJson S C) (log : List (ControlEvent S C)) (i n : Nat)
    (request : IpcRequest) (conn : ControlConn) : Prop
  | sent (htask : conn.task = .reading) (hanswered : conn.answered = n)
      (hout : conn.toSession = request.toVec ++ [10]) (hin : conn.toClient = [])
  | read (htask : conn.task = .answering request.toVec) (hanswered : conn.answered = n)
      (hout : conn.toSession = []) (hin : conn.toClient = [])
  | lost (htask : conn.task = .ended) (hin : conn.toClient = [])
  | answered (response : IpcResponse S C)
      (hproduced : .produced i n request.toVec response ∈ log)
      (hlen : (json.toVec response).length ≤ maxLine) (hanswered : conn.answered = n + 1)
      (hout : conn.toSession = [])
      (hin : Delivery (json.toVec response ++ [10]) conn.task conn.toClient)

/-- Nothing is under way between calls, unless the connection is at its end or a tunnel. -/
inductive QuietConn (conn : ControlConn) : Prop
  | ended (htask : conn.task = .ended)
  | relaying (htask : conn.task = .relaying)
  | reading (htask : conn.task = .reading) (hout : conn.toSession = [])
      (hin : conn.toClient = []) (hcount : conn.answered = conn.asked)

/-- Where the two ends stand, for each point a call can be at: between calls nothing is under
way, while a request is being written the task waits for the line, and once it is written the
task is at that line or sends the answer to it. -/
inductive CallInStep (json : ControlJson S C) (log : List (ControlEvent S C)) (i : Nat)
    (conn : ControlConn) : ClientCall → Prop
  | idle (h : QuietConn conn) : CallInStep json log i conn .idle
  | called {k : Nat} {request : IpcRequest} (h : QuietConn conn) :
      CallInStep json log i conn (.called k request)
  | refused {k : Nat} {request : IpcRequest} {out : List UInt8} (htask : conn.task = .ended) :
      CallInStep json log i conn (.writing k request out)
  | writing {k : Nat} {request : IpcRequest} {out : List UInt8} (htask : conn.task = .reading)
      (hin : conn.toClient = []) (hcount : conn.asked = conn.answered + 1)
      (hasked : .asked k i conn.answered request ∈ log) (hrest : out ≠ [])
      (hout : conn.toSession ++ out = request.toVec ++ [10]) :
      CallInStep json log i conn (.writing k request out)
  | reading {k n : Nat} {request : IpcRequest} (hcount : conn.asked = n + 1)
      (hasked : .asked k i n request ∈ log) (h : Awaiting json log i n request conn) :
      CallInStep json log i conn (.reading k request)

section Mono

variable {log es : List (ControlEvent S C)} {i n : Nat} {request : IpcRequest}
  {conn : ControlConn}

theorem Awaiting.mono (h : Awaiting json log i n request conn) :
    Awaiting json (log ++ es) i n request conn := by
  cases h with
  | sent htask hanswered hout hin => exact .sent htask hanswered hout hin
  | read htask hanswered hout hin => exact .read htask hanswered hout hin
  | lost htask hin => exact .lost htask hin
  | answered response hproduced hlen hanswered hout hin =>
    exact .answered response (List.mem_append_left _ hproduced) hlen hanswered hout hin

theorem CallInStep.mono {call : ClientCall} (h : CallInStep json log i conn call) :
    CallInStep json (log ++ es) i conn call := by
  cases h with
  | idle h => exact .idle h
  | called h => exact .called h
  | refused htask => exact .refused htask
  | writing htask hin hcount hasked hrest hout =>
    exact .writing htask hin hcount (List.mem_append_left _ hasked) hrest hout
  | reading hcount hasked h => exact .reading hcount (List.mem_append_left _ hasked) h.mono

end Mono

/-! ## The session's end -/

theorem Delivery.ends {frame got : List UInt8} {task : ServeTask} (h : Delivery frame task got) :
    Delivery frame .ended got := by
  cases h with
  | writing after hout hgot => exact .cutOff ⟨_, hgot⟩
  | whole => exact .cutOff (List.prefix_refl _)
  | relaying more => exact .overrun more
  | cutOff hgot => exact .cutOff hgot
  | overrun more => exact .overrun more

/-- A write of the session brings the response on its way. -/
theorem Delivery.writes {frame out got : List UInt8} {after : AfterResponse} (n : Nat)
    (h : got ++ out = frame) :
    Delivery frame (if out.drop n = [] then after.task else .writing (out.drop n) after)
      (got ++ out.take n) := by
  split
  next hdone =>
    have hall : got ++ out.take n = frame := by
      rw [← h, ← List.take_append_drop n out, hdone, List.append_nil, List.take_take, Nat.min_self]
    rw [hall]
    cases after with
    | readOn => exact .whole
    | relay =>
      have hrelay : Delivery frame .relaying (frame ++ []) := .relaying []
      rwa [List.append_nil] at hrelay
    | finish => exact .cutOff (List.prefix_refl _)
  next hmore =>
    refine .writing after hmore ?_
    rw [List.append_assoc, List.take_append_drop, h]

section Serve

variable {log : List (ControlEvent S C)} {i : Nat} {conn conn' : ControlConn} {call : ClientCall}

theorem CallInStep.ends (h : CallInStep json log i conn call) :
    CallInStep json log i { conn with task := .ended } call := by
  cases h with
  | idle => exact .idle (.ended rfl)
  | called => exact .called (.ended rfl)
  | refused | writing => exact .refused rfl
  | reading hcount hasked h =>
    refine .reading hcount hasked ?_
    cases h with
    | sent _ _ _ hin | read _ _ _ hin | lost _ hin => exact .lost rfl hin
    | answered response hproduced hlen hanswered hout hin =>
      exact .answered response hproduced hlen hanswered hout hin.ends

theorem readLineCapped_getD_overCap {bytes : Chunks UInt8} (h : OverCap bytes.contents) :
    (readLineCapped bytes []).result.toOption.getD 0 = 0 := by
  obtain ⟨rest, hread, -⟩ := readLineCapped_overCap h
  rw [hread]
  rfl

/-- A read of the session takes the whole request or ends the task. -/
theorem CallInStep.reads (h : CallInStep json log i conn call) (hdropped : conn.dropped = false)
    {bytes : Chunks UInt8} (htask : conn.task = .reading)
    (hbytes : bytes.contents = conn.toSession)
    (hready : lineReady conn.toSession conn.dropped) :
    CallInStep json log i
      { conn with
        toSession := (readLineCapped bytes []).rest.contents
        task := if (readLineCapped bytes []).result.toOption.getD 0 = 0 then .ended
          else .answering (readLineCapped bytes []).line } call := by
  have hsome : conn.toSession ≠ [] := by
    intro hnil
    rw [hnil, hdropped] at hready
    exact absurd hready (by decide)
  cases h with
  | idle h | called h =>
    cases h with
    | ended h | relaying h => simp [h] at htask
    | reading _ hout => exact absurd hout hsome
  | refused h => simp [h] at htask
  | @writing k request out _ hin hcount hasked hrest hout =>
    -- the line is not complete, so the read can only have met the cap
    have hfree : JsonText.ControlFree conn.toSession := fun b hb =>
      controlFree_toVec request b ((isPrefix_of_append_concat hout hrest).subset hb)
    have hover : OverCap bytes.contents := by
      rw [hdropped] at hready
      simpa [hbytes] using overCap_append hfree (lineReady_controlFree hfree hready) []
    exact .refused (if_pos (readLineCapped_getD_overCap hover))
  | @reading k n request hcount hasked h =>
    refine .reading hcount hasked ?_
    cases h with
    | sent _ hanswered hout hin =>
      rw [hout] at hbytes
      by_cases hlen : request.toVec.length ≤ maxLine
      · obtain ⟨rest, hread, hrest⟩ :=
          readLineCapped_controlFree (controlFree_toVec request) hlen hbytes
        refine .read ?_ hanswered ?_ hin
        · simp [hread, Except.toOption]
        · simp only [hread, hrest]
      · have hover : OverCap bytes.contents := by
          rw [hbytes]
          exact overCap_append (controlFree_toVec request) (Nat.lt_of_not_le hlen) _
        exact .lost (if_pos (readLineCapped_getD_overCap hover)) hin
    | read h | lost h => simp [h] at htask
    | answered _ _ _ _ hout => exact absurd hout hsome

/-- While the task answers, a call waits for it. -/
theorem CallInStep.busy (h : CallInStep json log i conn call) (hreading : conn.task ≠ .reading)
    (hrelaying : conn.task ≠ .relaying) (hended : conn.task ≠ .ended) :
    ∃ k n request, call = .reading k request ∧ conn.asked = n + 1 ∧
      .asked k i n request ∈ log ∧ Awaiting json log i n request conn := by
  have hquiet : ¬ QuietConn conn := by
    rintro (h | h | h)
    · exact hended h
    · exact hrelaying h
    · exact hreading h
  cases h with
  | idle h | called h => exact absurd h hquiet
  | refused htask => exact absurd htask hended
  | writing htask => exact absurd htask hreading
  | reading hcount hasked h => exact ⟨_, _, _, rfl, hcount, hasked, h⟩

/-- An answer is to the request of the call. -/
theorem CallInStep.answers {line : List UInt8} {response : IpcResponse S C} (after : AfterResponse)
    (h : CallInStep json log i conn call) (htask : conn.task = .answering line)
    (hcap : (json.toVec response).length ≤ maxLine) :
    CallInStep json (log ++ [.produced i conn.answered line response]) i
      { conn with
        task := .writing (json.toVec response ++ [10]) after, answered := conn.answered + 1 }
      call := by
  obtain ⟨k, n, request, rfl, hcount, hasked, h⟩ :=
    h.busy (by simp [htask]) (by simp [htask]) (by simp [htask])
  refine .reading hcount (List.mem_append_left _ hasked) ?_
  cases h with
  | sent h | lost h => simp [h] at htask
  | answered _ _ _ _ _ hin =>
    rw [htask] at hin
    cases hin
  | read h hanswered hout hin =>
    obtain rfl : request.toVec = line := by simpa [h] using htask
    refine .answered response ?_ hcap ?_ hout ?_
    · simp [hanswered]
    · simp [hanswered]
    · simp only [hin]
      exact .writing after (by simp) rfl

theorem CallInStep.writes {out : List UInt8} {after : AfterResponse} (n : Nat)
    (h : CallInStep json log i conn call) (htask : conn.task = .writing out after) :
    CallInStep json log i
      { conn with
        toClient := conn.toClient ++ out.take n
        task := if out.drop n = [] then after.task else .writing (out.drop n) after } call := by
  obtain ⟨k, m, request, rfl, hcount, hasked, h⟩ :=
    h.busy (by simp [htask]) (by simp [htask]) (by simp [htask])
  refine .reading hcount hasked ?_
  cases h with
  | sent h | lost h | read h => simp [h] at htask
  | answered response hproduced hlen hanswered hout hin =>
    rw [htask] at hin
    cases hin with
    | writing _ _ hgot => exact .answered response hproduced hlen hanswered hout (.writes n hgot)

theorem CallInStep.relays (bytes : List UInt8) (h : CallInStep json log i conn call)
    (htask : conn.task = .relaying) :
    CallInStep json log i { conn with toClient := conn.toClient ++ bytes } call := by
  cases h with
  | idle h => exact .idle (.relaying htask)
  | called h => exact .called (.relaying htask)
  | refused h | writing h => simp [h] at htask
  | reading hcount hasked h =>
    refine .reading hcount hasked ?_
    cases h with
    | sent h | lost h | read h => simp [h] at htask
    | answered response hproduced hlen hanswered hout hin =>
      refine .answered response hproduced hlen hanswered hout ?_
      show Delivery _ conn.task _
      rw [htask] at hin ⊢
      generalize hgot : conn.toClient = got at hin
      cases hin with
      | relaying more =>
        rw [List.append_assoc]
        exact .relaying _

/-- **Every move of the session's end keeps the two ends in step**, if the answer it produces is
within the cap. -/
theorem CallInStep.serve (h : CallInStep json log i conn call) (hdropped : conn.dropped = false)
    {move : ServeMove S C} {answer : Option (List UInt8 × IpcResponse S C)}
    (hserve : conn.serve json move = some (conn', answer))
    (hcap : ∀ line response, answer = some (line, response) →
      (json.toVec response).length ≤ maxLine) :
    conn'.dropped = false ∧
      CallInStep json
        (log ++ (answer.map fun a => .produced i conn.answered a.1 a.2).toList) i conn' call := by
  cases move with
  | reads bytes =>
    obtain ⟨hok, ⟨⟩⟩ := Option.ite_none_right_eq_some.1 hserve
    exact ⟨hdropped, (h.reads hdropped hok.1 hok.2.1 hok.2.2).mono⟩
  | answers replies =>
    simp only [ControlConn.serve] at hserve
    split at hserve
    next line htask =>
      split at hserve <;> cases hserve
      · exact ⟨hdropped, h.ends.mono⟩
      next response after hline => exact ⟨hdropped, h.answers after htask (hcap line response rfl)⟩
    · cases hserve
  | writes n =>
    simp only [ControlConn.serve] at hserve
    split at hserve
    next out after htask =>
      obtain ⟨hok, ⟨⟩⟩ := Option.ite_none_right_eq_some.1 hserve
      exact ⟨hdropped, (h.writes n htask).mono⟩
    · cases hserve
  | relays bytes =>
    obtain ⟨htask, ⟨⟩⟩ := Option.ite_none_right_eq_some.1 hserve
    exact ⟨hdropped, (h.relays bytes htask).mono⟩
  | ends =>
    cases hserve
    exact ⟨hdropped, h.ends.mono⟩

end Serve

/-! ## The command's end -/

section Command

variable {log : List (ControlEvent S C)} {i k : Nat} {request : IpcRequest} {conn : ControlConn}

theorem QuietConn.begins (h : QuietConn conn) (hrelaying : conn.task ≠ .relaying) :
    CallInStep json (log ++ [.asked k i conn.asked request]) i
      { conn with asked := conn.asked + 1 } (.writing k request (request.toVec ++ [10])) := by
  cases h with
  | ended htask => exact .refused htask
  | relaying htask => exact absurd htask hrelaying
  | reading htask hout hin hcount =>
    exact .writing htask hin (by simp [hcount]) (by simp [hcount]) (by simp) (by simp [hout])

/-- A write of the command brings the request on its way. -/
theorem CallInStep.sends {out : List UInt8} (n : Nat)
    (h : CallInStep json log i conn (.writing k request out)) (htask : conn.task ≠ .ended) :
    CallInStep json log i { conn with toSession := conn.toSession ++ out.take n }
      (if out.drop n = [] then .reading k request else .writing k request (out.drop n)) := by
  cases h with
  | refused h => exact absurd h htask
  | writing htask hin hcount hasked hrest hout =>
    have hsplit : conn.toSession ++ out.take n ++ out.drop n = request.toVec ++ [10] := by
      rw [List.append_assoc, List.take_append_drop, hout]
    split
    next hdone =>
      rw [hdone, List.append_nil] at hsplit
      exact .reading hcount hasked (.sent htask rfl hsplit hin)
    next hmore => exact .writing htask hin hcount hasked hmore hsplit

/-- **A call that reads takes the response to its own request**, if it takes one, and leaves the
connection quiet. -/
theorem CallInStep.receives (hjson : json.Lawful) {bytes : Chunks UInt8}
    (h : CallInStep json log i conn (.reading k request)) (hbytes : bytes.contents = conn.toClient)
    (hready : lineReady conn.toClient (conn.task = .ended)) :
    QuietConn { conn with toClient := (json.readResponse bytes).2 } ∧
      ∀ response, (json.readResponse bytes).1 = .ok response →
        ∃ n, .asked k i n request ∈ log ∧ .produced i n request.toVec response ∈ log := by
  cases h with
  | @reading _ n _ hcount hasked h =>
  have hempty (hin : conn.toClient = []) (htask : conn.task ≠ .ended) : False := by
    rw [hin, decide_eq_false htask] at hready
    exact absurd hready (by decide)
  cases h with
  | sent htask _ _ hin | read htask _ _ hin => exact (hempty hin (by simp [htask])).elim
  | lost htask hin =>
    refine ⟨.ended htask, fun response hread => ?_⟩
    have hnil : bytes.contents = [] := hbytes.trans hin
    have hfree : JsonText.ControlFree bytes.contents := by
      rw [hnil]
      decide
    obtain ⟨rest, hline, -⟩ := readLineCapped_cutOff hfree (by simp [hnil])
    simp only [ControlJson.readResponse, hline, hnil] at hread
    cases hread
  | answered response hproduced hlen hanswered hout hin =>
    have hown : ∀ other, other = response → ∃ n, .asked k i n request ∈ log ∧
        .produced i n request.toVec other ∈ log := by
      rintro other rfl
      exact ⟨n, hasked, hproduced⟩
    generalize htask : conn.task = task at hin
    generalize hgot : conn.toClient = got at hin
    rw [hgot] at hbytes
    cases hin with
    | writing after hmore hpart =>
      have hpart := isPrefix_of_append_concat hpart hmore
      have hfree : JsonText.ControlFree got := fun b hb =>
        hjson.controlFree response b (hpart.subset hb)
      rw [hgot, htask] at hready
      have hlong := lineReady_controlFree hfree (by simpa using hready)
      exact absurd (hpart.length_le.trans hlen) (Nat.not_le.2 hlong)
    | whole =>
      have hread := readResponse_toVec hjson hlen hbytes
      rw [hread]
      refine ⟨.reading rfl hout rfl (hanswered.trans hcount.symm), fun other hother => ?_⟩
      exact hown other (Except.ok.inj hother).symm
    | relaying more =>
      rw [List.append_assoc] at hbytes
      have hread := readResponse_toVec hjson hlen hbytes
      rw [hread]
      exact ⟨.relaying rfl, fun other hother => hown other (Except.ok.inj hother).symm⟩
    | cutOff hcut =>
      refine ⟨.ended rfl, fun other hother => hown other ?_⟩
      exact readResponse_cutOff hjson hlen (hbytes ▸ hcut) hother
    | overrun more =>
      rw [List.append_assoc] at hbytes
      have hread := readResponse_toVec hjson hlen hbytes
      rw [hread]
      exact ⟨.ended rfl, fun other hother => hown other (Except.ok.inj hother).symm⟩

end Command

end Flextunnel.Analysis
