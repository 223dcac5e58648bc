import Flextunnel.Analysis.ConnectionSteps

/-!
# Responses and the requests they are for

A response carries nothing that names its request; a call takes the next line of the connection
for its own. That is right as long as no earlier response, or part of one, is left on the
connection when a call begins.
-/

set_option autoImplicit false

namespace Flextunnel.Analysis

open Lib Model

variable {S C : Type} {json : ControlJson S C}

/-! ## Every run -/

/-- The condition on a step: an answer is within the cap on a line, and no request is sent into
a tunnel. -/
def WithinCap (json : ControlJson S C) (s : ControlState) : ControlLabel S C → Prop
  | .session i (.answers replies) => ∀ conn line response after, s.conns[i]? = some conn →
      conn.task = .answering line → json.serveLine replies line = some (response, after) →
      (json.toVec response).length ≤ maxLine
  | .begins => ∀ i conn, s.held = some (i, conn) → conn.task ≠ .relaying
  | _ => True

/-- The kept connection is in step with the call, and every response that was returned was
produced for the request of its call. -/
structure Paired (json : ControlJson S C) (log : List (ControlEvent S C)) (s : ControlState) :
    Prop where
  inStep : ∀ i conn, s.held = some (i, conn) → conn.dropped = false ∧
    CallInStep json log i conn s.call
  returned : ∀ k response, .returned k response ∈ log → ∃ i n request,
    .asked k i n request ∈ log ∧ .produced i n request.toVec response ∈ log

variable {conn conn' : ControlConn} {es log : List (ControlEvent S C)}

theorem eq_of_held_set {s : ControlState} {i j : Nat} {new : ControlConn} {call : ClientCall}
    (hheld : s.held = some (i, conn))
    (h : ControlState.held { s with conns := s.conns.set i new, call } = some (j, conn')) :
    j = i ∧ conn' = new := by
  obtain ⟨hstream, -⟩ := ControlState.held_eq_some_iff.1 hheld
  obtain ⟨hstream', hconn'⟩ := ControlState.held_eq_some_iff.1 h
  cases hstream.symm.trans hstream'
  rcases getElem?_set_cases hconn' with ⟨-, heq⟩ | ⟨hne, -⟩
  · exact ⟨rfl, heq⟩
  · exact absurd rfl hne

/-- A move leaves the counters, or it answers a line. -/
theorem serve_cases {move : ServeMove S C} {answer : Option (List UInt8 × IpcResponse S C)}
    (h : conn.serve json move = some (conn', answer)) :
    conn'.asked = conn.asked ∧ (answer = none ∧ conn'.answered = conn.answered ∨
      ∃ replies line response after, move = .answers replies ∧ conn.task = .answering line ∧
        json.serveLine replies line = some (response, after) ∧ answer = some (line, response) ∧
        conn'.answered = conn.answered + 1) := by
  cases move with
  | answers replies =>
    simp only [ControlConn.serve] at h
    split at h
    next htask =>
      split at h <;> cases h
      · exact ⟨rfl, .inl ⟨rfl, rfl⟩⟩
      next hline => exact ⟨rfl, .inr ⟨replies, _, _, _, rfl, htask, hline, rfl, rfl⟩⟩
    · cases h
  | reads | relays =>
    obtain ⟨-, ⟨⟩⟩ := Option.ite_none_right_eq_some.1 h
    exact ⟨rfl, .inl ⟨rfl, rfl⟩⟩
  | writes n =>
    simp only [ControlConn.serve] at h
    split at h
    · obtain ⟨-, ⟨⟩⟩ := Option.ite_none_right_eq_some.1 h
      exact ⟨rfl, .inl ⟨rfl, rfl⟩⟩
    · cases h
  | ends =>
    cases h
    exact ⟨rfl, .inl ⟨rfl, rfl⟩⟩

theorem Paired.keep {s : ControlState} (h : Paired json log s)
    (hnone : ∀ k response, .returned k response ∉ es) :
    ∀ k response, .returned k response ∈ log ++ es → ∃ i n request,
      .asked k i n request ∈ log ++ es ∧ .produced i n request.toVec response ∈ log ++ es := by
  intro k response hmem
  obtain ⟨i, n, request, hasked, hproduced⟩ :=
    h.returned k response ((List.mem_append.1 hmem).resolve_right (hnone k response))
  exact ⟨i, n, request, List.mem_append_left _ hasked, List.mem_append_left _ hproduced⟩

/-- Every step within the cap keeps the responses paired. -/
theorem paired_step (hjson : json.Lawful) (log : List (ControlEvent S C)) (s : ControlState)
    (label : ControlLabel S C) (t : ControlState) (es : List (ControlEvent S C))
    (hcond : WithinCap json s label) (h : Paired json log s)
    (hstep : (controlChannel json).step s label = some (t, es)) : Paired json (log ++ es) t := by
  cases ControlStep.of_step hstep with
  | request request hcall =>
    refine ⟨fun i conn hheld => ?_, h.keep (by simp)⟩
    obtain ⟨hdropped, hin⟩ := h.inStep i conn hheld
    rw [hcall] at hin
    cases hin with
    | idle hquiet => exact ⟨hdropped, .called hquiet⟩
  | reconnects hcall =>
    refine ⟨fun i conn hheld => ?_, h.keep (by simp)⟩
    obtain ⟨hstream, hconn⟩ := ControlState.held_eq_some_iff.1 hheld
    cases hstream
    obtain rfl : {} = conn := by simpa using hconn
    refine ⟨rfl, ?_⟩
    simp only [hcall]
    exact .called (.reading rfl rfl rfl rfl)
  | givesUp _ k message hclosed =>
    refine ⟨fun i conn hheld => ?_, h.keep (by simp)⟩
    obtain ⟨hdropped, -⟩ := h.inStep i conn hheld
    obtain ⟨hstream, -⟩ := ControlState.held_eq_some_iff.1 hheld
    rcases hclosed with hnone | ⟨i', conn', hheld', hended⟩
    · rw [hnone] at hstream
      cases hstream
    · have hsame : some (i, conn) = some (i', conn') := hheld.symm.trans hheld'
      cases hsame
      exact ⟨hdropped, .idle (.ended hended)⟩
  | @begins k i request conn hcall hheld =>
    refine ⟨fun j conn' hheld' => ?_, h.keep (by simp)⟩
    obtain ⟨hdropped, hin⟩ := h.inStep i conn hheld
    obtain ⟨rfl, rfl⟩ := eq_of_held_set hheld hheld'
    rw [hcall] at hin
    cases hin with
    | called hquiet => exact ⟨hdropped, hquiet.begins (hcond _ _ hheld)⟩
  | @writes k i n request out conn hcall hheld htask =>
    refine ⟨fun j conn' hheld' => ?_, h.keep (by simp)⟩
    obtain ⟨hdropped, hin⟩ := h.inStep i conn hheld
    obtain ⟨rfl, rfl⟩ := eq_of_held_set hheld hheld'
    rw [hcall] at hin
    exact ⟨hdropped, (hin.sends n htask).mono⟩
  | @reads k i request conn bytes hcall hheld hbytes hready =>
    obtain ⟨hdropped, hin⟩ := h.inStep i conn hheld
    rw [hcall] at hin
    obtain ⟨hquiet, hown⟩ := hin.receives hjson hbytes hready
    refine ⟨fun j conn' hheld' => ?_, ?_⟩
    · obtain ⟨rfl, rfl⟩ := eq_of_held_set hheld hheld'
      exact ⟨hdropped, .idle hquiet⟩
    cases hresult : (json.readResponse bytes).1 with
    | error message => exact h.keep (by simp [ControlEvent.ofResult])
    | ok response =>
      intro k' other hmem
      rcases List.mem_append.1 hmem with hold | hnew
      · obtain ⟨i', n, request', hasked, hproduced⟩ := h.returned k' other hold
        exact ⟨i', n, request', List.mem_append_left _ hasked, List.mem_append_left _ hproduced⟩
      obtain ⟨rfl, rfl⟩ : k' = k ∧ other = response := by
        simpa [ControlEvent.ofResult] using hnew
      obtain ⟨n, hasked, hproduced⟩ := hown other hresult
      exact ⟨i, n, request, List.mem_append_left _ hasked, List.mem_append_left _ hproduced⟩
  | timesOut hheld =>
    refine ⟨fun i conn hheld' => ?_, h.keep (by simp)⟩
    cases (ControlState.held_eq_some_iff.1 hheld').1
  | @session j move old new answer hconn hserve =>
    refine ⟨fun i conn hheld => ?_, h.keep ?_⟩
    · obtain ⟨hstream, hconn'⟩ := ControlState.held_eq_some_iff.1 hheld
      rcases getElem?_set_cases hconn' with ⟨rfl, rfl⟩ | ⟨hne, hold⟩
      · have hkept : s.held = some (i, old) := ControlState.held_eq_some_iff.2 ⟨hstream, hconn⟩
        obtain ⟨hdropped, hin⟩ := h.inStep i old hkept
        refine hin.serve hdropped hserve fun line response hanswer => ?_
        obtain ⟨-, ⟨rfl, -⟩ | ⟨replies, _, _, after, rfl, htask, hline, rfl, -⟩⟩ :=
          serve_cases hserve
        · cases hanswer
        · cases hanswer
          exact hcond old line response after hconn htask hline
      · have hkept : s.held = some (i, conn) := ControlState.held_eq_some_iff.2 ⟨hstream, hold⟩
        obtain ⟨hdropped, hin⟩ := h.inStep i conn hkept
        exact ⟨hdropped, hin.mono⟩
    · intro k response
      cases answer <;> simp

/-! ## Numbers -/

def askedNumber : ControlEvent S C → Option (Nat × Nat × Nat)
  | .asked k i n _ => some (i, n, k)
  | _ => none

def producedNumber : ControlEvent S C → Option (Nat × Nat × IpcResponse S C)
  | .produced i n _ response => some (i, n, response)
  | _ => none

@[simp] theorem askedNumber_ofResult (k : Nat) (result : Except String (IpcResponse S C)) :
    askedNumber (.ofResult k result) = none := by
  cases result <;> rfl

@[simp] theorem producedNumber_ofResult (k : Nat) (result : Except String (IpcResponse S C)) :
    producedNumber (.ofResult k result) = none := by
  cases result <;> rfl

def connCount (f : ControlConn → Nat) (conns : List ControlConn) (i : Nat) : Nat :=
  ((conns[i]?).map f).getD 0

section Count

variable {f : ControlConn → Nat} {conns : List ControlConn} {i : Nat} {conn new : ControlConn}

theorem connCount_eq (h : conns[i]? = some conn) : connCount f conns i = f conn := by
  rw [connCount, h]
  rfl

theorem connCount_set_self (h : conns[i]? = some conn) :
    connCount f (conns.set i new) i = f new := connCount_eq (getElem?_set_moved h)

theorem connCount_le_set (h : conns[i]? = some conn) (hle : f conn ≤ f new) (j : Nat) :
    connCount f conns j ≤ connCount f (conns.set i new) j := by
  by_cases hij : i = j
  · subst hij
    rw [connCount_eq h, connCount_set_self h]
    exact hle
  · rw [connCount, connCount, List.getElem?_set_ne hij]

theorem connCount_le_append (j : Nat) : connCount f conns j ≤ connCount f (conns ++ [new]) j := by
  cases hj : conns[j]? with
  | none => simp [connCount, hj]
  | some conn => rw [connCount_eq hj, connCount_eq (getElem?_concat_of_some hj)]

end Count

/-- The requests and the answers are numbered by the counters of their connections. -/
def CountsNumbered (conns : List ControlConn) (log : List (ControlEvent S C)) : Prop :=
  Numbered askedNumber (connCount (·.asked) conns) log ∧
    Numbered producedNumber (connCount (·.answered) conns) log

theorem CountsNumbered.append {conns conns' : List ControlConn} (h : CountsNumbered conns log)
    (hasked : ∀ i, connCount (·.asked) conns i ≤ connCount (·.asked) conns' i)
    (hanswered : ∀ i, connCount (·.answered) conns i ≤ connCount (·.answered) conns' i)
    (hes : ∀ e ∈ es, askedNumber e = none ∧ producedNumber e = none) :
    CountsNumbered conns' (log ++ es) :=
  ⟨h.1.append hasked fun e he => (hes e he).1, h.2.append hanswered fun e he => (hes e he).2⟩

/-- A move of one connection that counts nothing keeps the numbers. -/
theorem CountsNumbered.set {conns : List ControlConn} {i : Nat} {new : ControlConn}
    (h : CountsNumbered conns log) (hconn : conns[i]? = some conn) (hasked : new.asked = conn.asked)
    (hanswered : new.answered = conn.answered)
    (hes : ∀ e ∈ es, askedNumber e = none ∧ producedNumber e = none) :
    CountsNumbered (conns.set i new) (log ++ es) :=
  h.append (connCount_le_set hconn (Nat.le_of_eq hasked.symm))
    (connCount_le_set hconn (Nat.le_of_eq hanswered.symm)) hes

/-- Every step keeps the numbers. -/
theorem numbered_step (log : List (ControlEvent S C)) (s : ControlState)
    (label : ControlLabel S C) (t : ControlState) (es : List (ControlEvent S C))
    (h : CountsNumbered s.conns log)
    (hstep : (controlChannel json).step s label = some (t, es)) :
    CountsNumbered t.conns (log ++ es) := by
  cases ControlStep.of_step hstep with
  | request =>
    exact h.append (fun _ => Nat.le_refl _) (fun _ => Nat.le_refl _) (by simp)
  | reconnects hcall => exact h.append connCount_le_append connCount_le_append (by simp)
  | givesUp _ k message hclosed =>
    exact h.append (fun _ => Nat.le_refl _) (fun _ => Nat.le_refl _)
      (by simp [askedNumber, producedNumber])
  | begins hcall hheld =>
    obtain ⟨-, hconn⟩ := ControlState.held_eq_some_iff.1 hheld
    constructor
    · refine h.1.concat (connCount_le_set hconn (Nat.le_succ _)) rfl (connCount_eq hconn) ?_
      simp only [connCount_set_self hconn]
      exact Nat.lt_succ_self _
    · exact h.2.append (connCount_le_set hconn (Nat.le_refl _)) (by simp [producedNumber])
  | writes _ hheld | reads _ hheld =>
    exact h.set (ControlState.held_eq_some_iff.1 hheld).2 rfl rfl (by simp)
  | timesOut hheld =>
    exact h.set (ControlState.held_eq_some_iff.1 hheld).2 rfl rfl
      (by simp [askedNumber, producedNumber])
  | @session i move conn conn' answer hconn hserve =>
    obtain ⟨hsame, ⟨rfl, hcount⟩ | ⟨_, _, _, _, _, _, _, rfl, hcount⟩⟩ := serve_cases hserve
    · exact h.set hconn hsame hcount (by simp)
    have hle : conn.answered ≤ conn'.answered := hcount ▸ Nat.le_add_right _ _
    refine ⟨h.1.append (connCount_le_set hconn (Nat.le_of_eq hsame.symm))
      (by simp [askedNumber]), ?_⟩
    refine h.2.concat (connCount_le_set hconn hle) rfl (connCount_eq hconn) ?_
    simp only [connCount_set_self hconn, hcount]
    exact Nat.lt_succ_self _

/-- **Each call that returns a response returns the one that was produced for its request**, in
every run in which the answers are within the cap on a line and no request is sent into a tunnel.
The request of a call is the `n`-th that was begun on its connection; nothing but that request has
this number, and nothing but the response was produced for it. -/
theorem responses_pair_with_requests (hjson : json.Lawful) {labels : List (ControlLabel S C)}
    {s : ControlState} {log : List (ControlEvent S C)}
    (hcond : (controlChannel json).Guarded (WithinCap json) .connected labels)
    (hrun : (controlChannel json).run .connected labels = some (s, log)) {k : Nat}
    {response : IpcResponse S C} (hreturned : .returned k response ∈ log) :
    ∃ i n request, .asked k i n request ∈ log ∧ .produced i n request.toVec response ∈ log ∧
      (∀ k' request', .asked k' i n request' ∈ log → k' = k) ∧
      ∀ line other, .produced i n line other ∈ log → other = response := by
  have hstart : Paired json [] .connected := by
    refine ⟨fun i conn hheld => ?_, by simp⟩
    cases hheld
    exact ⟨rfl, .idle (.reading rfl rfl rfl rfl)⟩
  have hpaired := (controlChannel json).guarded_log_rule (paired_step hjson) hstart hcond hrun
  obtain ⟨hasked, hproduced⟩ := (controlChannel json).log_rule numbered_step
    ⟨numbered_nil, numbered_nil⟩ hrun
  obtain ⟨i, n, request, hask, hprod⟩ := hpaired.returned k response hreturned
  refine ⟨i, n, request, hask, hprod, fun k' request' hask' => ?_, fun line other hprod' => ?_⟩
  · exact hasked.unique _ hask' _ hask i n k' k rfl rfl
  · exact hproduced.unique _ hprod' _ hprod i n other response rfl rfl

/-! ## Exchanges -/

section Exchange

variable {conn : ControlConn} {call : ClientCall} {calls : Nat}

/-- A call sends its request. -/
theorem run_ask (conn : ControlConn) (calls : Nat) (request : IpcRequest)
    (htask : conn.task ≠ .ended) :
    (controlChannel json).run ⟨[conn], some 0, .idle, calls⟩
        [.request request, .begins, .writes (request.toVec.length + 1)] =
      some (⟨[{ conn with
          asked := conn.asked + 1, toSession := conn.toSession ++ (request.toVec ++ [10]) }],
        some 0, .reading calls request, calls + 1⟩, [.asked calls 0 conn.asked request]) := by
  simp [Machine.run, controlChannel, ControlState.step, ControlState.held, htask]

/-- The session reads a request and sends its answer. -/
theorem run_answer {line : List UInt8} {response : IpcResponse S C}
    {replies : SessionReplies S C} (hline : JsonText.ControlFree line)
    (hlen : line.length ≤ maxLine) (htask : conn.task = .reading)
    (hout : conn.toSession = line ++ [10])
    (hserve : json.serveLine replies line = some (response, .readOn)) :
    (controlChannel json).run ⟨[conn], some 0, call, calls⟩
        [.session 0 (.reads (.ofPieces [line ++ [10]])), .session 0 (.answers replies),
          .session 0 (.writes ((json.toVec response).length + 1))] =
      some (⟨[{ conn with
          toSession := [], toClient := conn.toClient ++ (json.toVec response ++ [10])
          answered := conn.answered + 1 }], some 0, call, calls⟩,
        [.produced 0 conn.answered line response]) := by
  have hbytes : (Chunks.ofPieces [line ++ [10]]).contents = line ++ [10] := by simp
  obtain ⟨rest, hread, hrest⟩ := readLineCapped_controlFree hline hlen hbytes
  have hready : lineReady (line ++ [10]) conn.dropped = true := by simp [lineReady]
  simp [Machine.run, controlChannel, ControlState.step, ControlConn.serve, htask, hout, hbytes,
    hready, hread, hrest, Except.toOption, hserve, AfterResponse.task]

/-- The call reads what is on the connection. -/
theorem run_read {k : Nat} {request : IpcRequest} (hline : 10 ∈ conn.toClient)
    {result : Except String (IpcResponse S C)} {rest : List UInt8}
    (hread : json.readResponse (.ofPieces [conn.toClient]) = (result, rest)) :
    (controlChannel json).run ⟨[conn], some 0, .reading k request, calls⟩
        [.reads (.ofPieces [conn.toClient])] =
      some (⟨[{ conn with toClient := rest }], some 0, .idle, calls⟩, [.ofResult k result]) := by
  have hready : lineReady conn.toClient (decide (conn.task = .ended)) = true := by
    simp [lineReady, hline]
  simp [Machine.run, controlChannel, ControlState.step, ControlState.held, hready, hread]

/-- A response over the cap fails and leaves the rest of its line. -/
theorem readResponse_overCap (hjson : json.Lawful) {response : IpcResponse S C}
    (hlong : maxLine < (json.toVec response).length) :
    json.readResponse (.ofPieces [json.toVec response ++ [10]]) =
      (.error "control message exceeds the 1 MiB line cap",
        (json.toVec response).drop (maxLine + 1) ++ [10]) := by
  have hbytes : (Chunks.ofPieces [json.toVec response ++ [10]]).contents =
      json.toVec response ++ [10] := by simp
  have hover : OverCap (Chunks.ofPieces [json.toVec response ++ [10]]).contents := by
    rw [hbytes]
    exact overCap_append (hjson.controlFree response) hlong _
  obtain ⟨rest, hread, hrest⟩ := readLineCapped_overCap hover
  rw [hbytes, List.drop_append_of_le_length hlong] at hrest
  simp only [ControlJson.readResponse, hread, hrest, ReadError.message]

/-- A rest of a line fails as malformed. -/
theorem readResponse_malformed {line : List UInt8} (hline : JsonText.ControlFree line)
    (hlen : line.length ≤ maxLine) {e : String} (herror : json.response line = .error e) :
    json.readResponse (.ofPieces [line ++ [10]]) = (.error "Malformed control response", []) := by
  have hbytes : (Chunks.ofPieces [line ++ [10]]).contents = line ++ [10] := by simp
  obtain ⟨rest, hread, hrest⟩ := readLineCapped_controlFree hline hlen hbytes
  simp only [ControlJson.readResponse, hread, Nat.add_eq_zero_iff, one_ne_zero, and_false,
    if_false, herror, hrest]
  rfl

/-- **A response over the cap shifts the pairing.** Three calls ask for the status. The first
fails in the middle of its response and the second reads the rest of it; the third returns what
was produced for the second. -/
theorem oversize_response_shifts (hjson : json.Lawful) {long short : IpcResponse S C}
    {replies₁ replies₂ : SessionReplies S C} {e : String}
    (hlong : json.serveLine replies₁ IpcRequest.status.toVec = some (long, .readOn))
    (hshort : json.serveLine replies₂ IpcRequest.status.toVec = some (short, .readOn))
    (hover : maxLine < (json.toVec long).length) (hcap : (json.toVec short).length ≤ maxLine)
    (hrest : ((json.toVec long).drop (maxLine + 1)).length ≤ maxLine)
    (hmalformed : json.response ((json.toVec long).drop (maxLine + 1)) = .error e) :
    ∃ labels s, (controlChannel json).run .connected labels = some (s,
      [.asked 0 0 0 .status, .produced 0 0 IpcRequest.status.toVec long,
        .failed 0 "control message exceeds the 1 MiB line cap",
        .asked 1 0 1 .status, .failed 1 "Malformed control response",
        .produced 0 1 IpcRequest.status.toVec short,
        .asked 2 0 2 .status, .returned 2 short]) := by
  have hline := controlFree_toVec .status
  have hlen : IpcRequest.status.toVec.length ≤ maxLine := by decide +kernel
  have hfree : JsonText.ControlFree ((json.toVec long).drop (maxLine + 1)) := fun b hb =>
    hjson.controlFree long b (List.mem_of_mem_drop hb)
  have hback : json.readResponse (.ofPieces [json.toVec short ++ [10]]) = (.ok short, []) :=
    readResponse_toVec hjson hcap (by simp)
  -- the first call
  have hrun := (controlChannel json).run_append (run_ask {} 0 .status (by simp))
    (run_answer hline hlen rfl rfl hlong)
  have hrun := (controlChannel json).run_append hrun
    (run_read (by simp) (readResponse_overCap hjson hover))
  -- the second, answered after it has failed
  have hrun := (controlChannel json).run_append hrun (run_ask _ _ .status (by simp))
  have hrun := (controlChannel json).run_append hrun
    (run_read (by simp) (readResponse_malformed hfree hrest hmalformed))
  have hrun := (controlChannel json).run_append hrun (run_answer hline hlen rfl rfl hshort)
  -- the third
  have hrun := (controlChannel json).run_append hrun (run_ask _ _ .status (by simp))
  have hrun := (controlChannel json).run_append hrun (run_read (by simp) hback)
  exact ⟨_, _, hrun⟩

end Exchange

/-! ## A text for responses -/

def letters (b : UInt8) : List UInt8 :=
  [UInt8.ofNat (64 + b.toNat / 16), UInt8.ofNat (64 + b.toNat % 16)]

def unletters : List UInt8 → List UInt8
  | hi :: lo :: rest => UInt8.ofNat ((hi.toNat - 64) * 16 + (lo.toNat - 64)) :: unletters rest
  | _ => []

theorem unletters_flatMap (bs : List UInt8) : unletters (bs.flatMap letters) = bs := by
  induction bs with
  | nil => rfl
  | cons b bs ih =>
    have hb := b.toNat_lt
    have hbyte : UInt8.ofNat (((UInt8.ofNat (64 + b.toNat / 16)).toNat - 64) * 16 +
        ((UInt8.ofNat (64 + b.toNat % 16)).toNat - 64)) = b := by
      apply UInt8.toNat_inj.1
      simp only [UInt8.toNat_ofNat']
      omega
    rw [List.flatMap_cons]
    show _ :: unletters (bs.flatMap letters) = _
    rw [ih, hbyte]

theorem le_of_mem_letters {bs : List UInt8} {x : UInt8} (h : x ∈ bs.flatMap letters) :
    64 ≤ x := by
  obtain ⟨b, -, hb⟩ := List.mem_flatMap.1 h
  have hlt := b.toNat_lt
  have hx : x = UInt8.ofNat (64 + b.toNat / 16) ∨ x = UInt8.ofNat (64 + b.toNat % 16) := by
    simpa [letters] using hb
  rw [UInt8.le_iff_toNat_le]
  rcases hx with rfl | rfl <;> simp only [UInt8.toNat_ofNat', UInt8.reduceToNat] <;> omega

def unpack (bytes : List UInt8) : Option (List UInt8) :=
  if bytes.getLast? = some 33 ∧ 33 ∉ bytes.dropLast then some (unletters bytes.dropLast) else none

theorem unpack_packed (payload : List UInt8) :
    unpack (payload.flatMap letters ++ [33]) = some payload := by
  have hmark : 33 ∉ payload.flatMap letters := fun h => absurd (le_of_mem_letters h) (by decide)
  rw [unpack, List.getLast?_concat, List.dropLast_concat, if_pos ⟨rfl, hmark⟩, unletters_flatMap]

theorem eq_of_unpack {payload bytes other : List UInt8}
    (hbegin : bytes <+: payload.flatMap letters ++ [33]) (h : unpack bytes = some other) :
    bytes = payload.flatMap letters ++ [33] := by
  refine (List.prefix_concat_iff.1 hbegin).resolve_right fun hpart => ?_
  obtain ⟨hmark, -⟩ := (Option.ite_none_right_eq_some.1 h).1
  exact absurd (le_of_mem_letters (hpart.subset (List.mem_of_getLast? hmark))) (by decide)

def tagOf : IpcResponse Nat Unit → UInt8
  | .status _ => 65
  | .connPath _ => 66
  | .connected => 67
  | .error _ => 69

def payloadOf : IpcResponse Nat Unit → List UInt8
  | .status size => List.replicate size 0
  | .connPath _ => []
  | .connected => []
  | .error message => Reader.utf8 message

def ofTag (tag : UInt8) (payload : List UInt8) : Option (IpcResponse Nat Unit) :=
  if tag = 65 then some (.status payload.length)
  else if tag = 66 then some (.connPath ())
  else if tag = 67 then some .connected
  else if tag = 69 then (Reader.ofUtf8 payload).map .error
  else none

theorem ofTag_tagOf (response : IpcResponse Nat Unit) :
    ofTag (tagOf response) (payloadOf response) = some response := by
  cases response with
  | status size => simp [ofTag, tagOf, payloadOf]
  | connPath | connected => rfl
  | error message => simp [ofTag, tagOf, payloadOf, Reader.ofUtf8_utf8]

/-- A text for responses, with snapshots that have nothing but a size; the only request it
knows is the one for the status. -/
def packedJson : ControlJson Nat Unit where
  request line := if line = IpcRequest.status.toVec then .ok .status else .error "expected value"
  response bytes :=
    ((bytes.head?.bind fun tag => (unpack bytes.tail).bind (ofTag tag)).map .ok).getD
      (.error "expected value")
  toVec response := tagOf response :: ((payloadOf response).flatMap letters ++ [33])

/-- The text meets the laws of serde_json. -/
theorem packedJson_lawful : packedJson.Lawful where
  response_toVec response := by
    simp [packedJson, unpack_packed, ofTag_tagOf]
  controlFree response := by
    refine .cons ?_ (.append (fun b hb => ?_) (by decide))
    · cases response <;> (dsimp only [tagOf]; decide)
    · exact UInt8.le_trans (by decide) (le_of_mem_letters hb)
  whole response bytes other hbegin hread := by
    cases bytes with
    | nil => simp [packedJson] at hread
    | cons tag rest =>
      obtain ⟨rfl, hrest⟩ := List.cons_prefix_cons.1 hbegin
      cases hunpack : unpack rest with
      | none => simp [packedJson, hunpack] at hread
      | some payload =>
        rw [eq_of_unpack hrest hunpack]
        rfl

def sized (size : Nat) : SessionReplies Nat Unit :=
  { status := some size, connPath := none, opens := fun _ => .error "refused" }

theorem serveLine_sized (size : Nat) :
    packedJson.serveLine (sized size) IpcRequest.status.toVec = some (.status size, .readOn) := by
  simp [ControlJson.serveLine, packedJson, sized, SessionReplies.respondTo, SessionReplies.dispatch]

theorem length_serveLine_sized {size : Nat}
    (hsize : (packedJson.toVec (.status size)).length ≤ maxLine) {line : List UInt8}
    {response : IpcResponse Nat Unit} {after : AfterResponse}
    (h : packedJson.serveLine (sized size) line = some (response, after)) :
    (packedJson.toVec response).length ≤ maxLine := by
  by_cases hline : line = IpcRequest.status.toVec
  · rw [hline, serveLine_sized] at h
    cases h
    exact hsize
  have herror : packedJson.request line = .error "expected value" := if_neg hline
  simp only [ControlJson.serveLine, herror, SessionReplies.respondTo, Option.map_some] at h
  cases h
  decide +kernel

/-- A call for the status, answered with a snapshot of this size. -/
def statusCall (size : Nat) : List (ControlLabel Nat Unit) :=
  [.request .status, .begins, .writes (IpcRequest.status.toVec.length + 1),
    .session 0 (.reads (.ofPieces [IpcRequest.status.toVec ++ [10]])),
    .session 0 (.answers (sized size)),
    .session 0 (.writes ((packedJson.toVec (.status size)).length + 1)),
    .reads (.ofPieces [packedJson.toVec (.status size) ++ [10]])]

/-- The one connection, after `n` calls that were answered. -/
def afterCalls (n : Nat) : ControlState := ⟨[{ asked := n, answered := n }], some 0, .idle, n⟩

theorem statusCall_withinCap {size : Nat}
    (hsize : (packedJson.toVec (.status size)).length ≤ maxLine) (n : Nat) :
    (controlChannel packedJson).Guarded (WithinCap packedJson) (afterCalls n)
      (statusCall size) := by
  refine ⟨trivial, fun s es hrequest => ⟨?_, fun t es' _ => ?_⟩⟩
  · cases hrequest
    intro i conn hheld
    obtain ⟨rfl, rfl⟩ : 0 = i ∧ { asked := n, answered := n } = conn := by
      simpa [afterCalls, ControlState.held] using hheld
    simp
  · refine Machine.guarded_of_mem _ ?_ t
    simp only [List.forall_mem_cons]
    refine ⟨fun _ => trivial, fun _ => trivial, ?_, fun _ => trivial, fun _ => trivial, by simp⟩
    intro s conn line response after _ _ hserve
    exact length_serveLine_sized hsize hserve

/-- A call for the status returns the snapshot. -/
theorem run_statusCall {size : Nat} (hsize : (packedJson.toVec (.status size)).length ≤ maxLine)
    (n : Nat) : (controlChannel packedJson).run (afterCalls n) (statusCall size) =
      some (afterCalls (n + 1), [.asked n 0 n .status,
        .produced 0 n IpcRequest.status.toVec (.status size), .returned n (.status size)]) := by
  have hlen : IpcRequest.status.toVec.length ≤ maxLine := by decide +kernel
  have hback : packedJson.readResponse (.ofPieces [packedJson.toVec (.status size) ++ [10]]) =
      (.ok (.status size), []) :=
    readResponse_toVec packedJson_lawful hsize (by simp)
  have hrun := (controlChannel packedJson).run_append
    (run_ask { asked := n, answered := n } n .status (by simp))
    (run_answer (controlFree_toVec .status) hlen rfl rfl (serveLine_sized size))
  have hend := (controlChannel packedJson).run_append hrun (run_read (by simp) hback)
  exact hend

/-- Two calls on one connection, answered with snapshots of different sizes. -/
theorem responses_pair_with_requests_twice :
    ∃ log : List (ControlEvent Nat Unit),
      .returned 0 (.status 0) ∈ log ∧ .returned 1 (.status 1) ∈ log ∧
      ∃ i n request, .asked 1 i n request ∈ log ∧
        .produced i n request.toVec (.status 1) ∈ log ∧
        (∀ k' request', .asked k' i n request' ∈ log → k' = 1) ∧
        ∀ line other, .produced i n line other ∈ log → other = .status 1 := by
  have hsize₀ : (packedJson.toVec (.status 0)).length ≤ maxLine := by decide +kernel
  have hsize₁ : (packedJson.toVec (.status 1)).length ≤ maxLine := by decide +kernel
  have hrun := (controlChannel packedJson).run_append (run_statusCall hsize₀ 0)
    (run_statusCall hsize₁ 1)
  have hcond := (statusCall_withinCap hsize₀ 0).append (run_statusCall hsize₀ 0)
    (statusCall_withinCap hsize₁ 1)
  exact ⟨_, by simp, by simp, responses_pair_with_requests packedJson_lawful hcond hrun (by simp)⟩

theorem toVec_status (size : Nat) :
    packedJson.toVec (.status size) = 65 :: (List.replicate (2 * size) 64 ++ [33]) := by
  have hletters : (List.replicate size (0 : UInt8)).flatMap letters =
      List.replicate (2 * size) 64 := by
    induction size with
    | zero => rfl
    | succ size ih =>
      rw [List.replicate_succ, List.flatMap_cons, ih, Nat.mul_succ, Nat.add_comm,
        ← List.replicate_append_replicate]
      rfl
  show 65 :: ((List.replicate size (0 : UInt8)).flatMap letters ++ [33]) = _
  rw [hletters]

/-- A response over the cap: the third call returns what was produced for the second. -/
theorem oversize_status_shifts :
    packedJson.Lawful ∧ ∃ labels s, (controlChannel packedJson).run .connected labels = some (s,
      [.asked 0 0 0 .status, .produced 0 0 IpcRequest.status.toVec (.status (512 * 1024)),
        .failed 0 "control message exceeds the 1 MiB line cap",
        .asked 1 0 1 .status, .failed 1 "Malformed control response",
        .produced 0 1 IpcRequest.status.toVec (.status 0),
        .asked 2 0 2 .status, .returned 2 (.status 0)]) := by
  obtain ⟨size, hsize, hcap⟩ : ∃ size, 512 * 1024 = size ∧ 2 * size = maxLine := ⟨_, rfl, rfl⟩
  have htail : (packedJson.toVec (.status size)).drop (maxLine + 1) = [33] := by
    rw [toVec_status, List.drop_succ_cons, hcap, List.drop_left' List.length_replicate]
  have hmalformed : packedJson.response [33] = .error "expected value" := by decide
  rw [hsize]
  refine ⟨packedJson_lawful, oversize_response_shifts packedJson_lawful (serveLine_sized size)
    (serveLine_sized 0) ?_ (by decide +kernel) ?_ (htail ▸ hmalformed)⟩
  · rw [toVec_status, hcap, List.length_cons, List.length_append, List.length_replicate]
    omega
  · rw [htail]
    decide

end Flextunnel.Analysis
