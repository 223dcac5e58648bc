import Flextunnel.Model.Heartbeat

/-!
# The heartbeat stays in step

The client sends one heartbeat at a time and waits for its acknowledgement, so the two loops
stay in step on any schedule: what passes between them is a beginning of the conversation
`beat 1, heard 1, acked 1, beat 2, …`, with the numbers modulo `2 ^ 64`.
-/

set_option autoImplicit false

namespace Flextunnel.Analysis

open Lib Lib.Reader Model

/-! ## Frames -/

theorem length_toJson_le (msg : ControlMsg) : msg.toJson.length ≤ 120 := by
  have hkeys : JsonText.stringSize "Heartbeat" = 11 ∧ JsonText.stringSize "HeartbeatAck" = 14 ∧
      JsonText.stringSize "seq" = 5 := by decide
  obtain ⟨hbeat, hack, hseq⟩ := hkeys
  have hnumber (seq : UInt64) : (JsonText.number seq.toNat).length ≤ 80 :=
    JsonText.length_number_le (k := 20) (by decide) (by have := seq.toNat_lt; omega)
  cases msg with
  | heartbeat seq | heartbeatAck seq =>
    have hdigits := hnumber seq
    simp only [ControlMsg.toJson, JsonText.length_object, JsonText.arraySize, List.map_cons,
      List.map_nil, List.sum_cons, List.sum_nil, List.length_cons, List.length_nil, hbeat, hack,
      hseq]
    omega

def controlFrame (msg : ControlMsg) : List UInt8 := be32 msg.toJson.length ++ msg.toJson

theorem writeMessage_toJson (msg : ControlMsg) :
    writeMessage msg.toJson = .ok (controlFrame msg) := by
  have hlen := length_toJson_le msg
  rw [writeMessage, if_pos (by omega), controlFrame]

theorem u32_run_of_short {got : List UInt8} (h : got.length < 4) :
    (u32 StreamError.eof).run got = .error .eof := by
  rcases got with _ | ⟨a, _ | ⟨b, _ | ⟨c, _ | ⟨d, rest⟩⟩⟩⟩
  iterate 4 · rfl
  · simp only [List.length_cons] at h
    omega

/-- A reader that has a beginning of a frame waits for more until it has the whole message. -/
theorem readProgress_of_isPrefix {msg : ControlMsg} {got : List UInt8}
    (h : got <+: controlFrame msg) :
    (got ≠ controlFrame msg ∧ ∃ needed, readProgress maxControlMsgSize got = .more needed) ∨
      got = controlFrame msg ∧ readProgress maxControlMsgSize got = .done msg.toJson := by
  have hlen := length_toJson_le msg
  have hmax : ¬ maxControlMsgSize < msg.toJson.length := by
    have : maxControlMsgSize = 16384 := rfl
    omega
  by_cases hshort : got.length < 4
  · left
    constructor
    · rintro rfl
      simp only [controlFrame, be32, List.length_append, List.length_cons] at hshort
      omega
    · exact ⟨_, by rw [readProgress, u32_run_of_short hshort]⟩
  -- the length is there: the rest is a beginning of the payload
  obtain ⟨payload, rfl⟩ : be32 msg.toJson.length <+: got :=
    List.prefix_of_prefix_length_le (List.prefix_append _ _) h (by simp [be32]; omega)
  have hpayload : payload <+: msg.toJson := (List.prefix_append_right_inj _).1 h
  have hread : readProgress maxControlMsgSize (be32 msg.toJson.length ++ payload) =
      if payload.length < msg.toJson.length then
        .more (msg.toJson.length - payload.length)
      else .done (payload.take msg.toJson.length) := by
    rw [readProgress, reads_u32 StreamError.eof (by omega) payload]
    simp only [hmax, if_false]
  rw [hread]
  by_cases hrest : payload.length < msg.toJson.length
  · left
    constructor
    · intro heq
      have hsame := congrArg List.length heq
      simp only [controlFrame, List.length_append] at hsame
      omega
    · exact ⟨_, if_pos hrest⟩
  · right
    obtain rfl : payload = msg.toJson := hpayload.eq_of_length_le (by omega)
    exact ⟨rfl, by rw [if_neg hrest, List.take_length]⟩

/-! ## The conversation -/

def exchange (n : Nat) : List HeartbeatEvent :=
  [.beat (.ofNat n), .heard (.ofNat n), .acked (.ofNat n)]

def conversation : Nat → List HeartbeatEvent
  | 0 => []
  | n + 1 => conversation n ++ exchange (n + 1)

def exchanged (log : List HeartbeatEvent) : List HeartbeatEvent :=
  log.filter fun e => match e with
    | .clientEnded _ | .serverEnded _ => false
    | _ => true

/-! ## The invariant -/

def isBetween : BeatPc → Bool
  | .waiting .. | .sleeping .. => true
  | _ => false

def isBusy : BeatPc → Bool
  | .writing _ | .awaiting _ => true
  | _ => false

structure Resting (log : List HeartbeatEvent) (s : HeartbeatLoops) (n : Nat) : Prop where
  log : exchanged log = conversation n
  client : isBusy s.client = false
  clientOut : s.clientOut = []
  up : s.up.flight = []
  serverIn : s.serverIn = []
  serverOut : s.serverOut = []
  down : s.down.flight = []
  clientIn : s.clientIn = []

structure Asking (log : List HeartbeatEvent) (s : HeartbeatLoops) (n : Nat) : Prop where
  log : exchanged log = conversation n ++ [.beat (.ofNat (n + 1))]
  client : isBetween s.client = false
  up : Carries s.up (controlFrame (.heartbeat s.seq)) s.clientOut s.serverIn
  serverOut : s.serverOut = []
  down : s.down.flight = []
  clientIn : s.clientIn = []

structure Answering (log : List HeartbeatEvent) (s : HeartbeatLoops) (n : Nat) : Prop where
  log : exchanged log = conversation n ++ [.beat (.ofNat (n + 1)), .heard (.ofNat (n + 1))]
  client : isBetween s.client = false
  clientOut : s.clientOut = []
  up : s.up.flight = []
  serverIn : s.serverIn = []
  down : Carries s.down (controlFrame (.heartbeatAck s.seq)) s.serverOut s.clientIn

/-- Between two beats nothing is under way; then one direction carries the heartbeat, and once
the server has all of it the other direction carries the acknowledgement. -/
inductive InStep (log : List HeartbeatEvent) (s : HeartbeatLoops) : Prop
  | resting (n : Nat) (hseq : s.seq = .ofNat n) (h : Resting log s n)
  | asking (n : Nat) (hseq : s.seq = .ofNat (n + 1)) (h : Asking log s n)
  | answering (n : Nat) (hseq : s.seq = .ofNat (n + 1)) (h : Answering log s n)

def fromOutside : HeartbeatError → Bool
  | .timedOut | .readClosed _ | .writeClosed _ => true
  | _ => false

def isHarmless : HeartbeatEvent → Bool
  | .clientEnded e | .serverEnded e => fromOutside e
  | _ => true

def Keeps (log : List HeartbeatEvent) (r : HeartbeatLoops × List HeartbeatEvent) : Prop :=
  InStep (log ++ r.2) r.1 ∧ ∀ e ∈ r.2, isHarmless e = true

section Steps

variable {decodeControl : List UInt8 → Except String ControlMsg} {log es : List HeartbeatEvent}
  {s t : HeartbeatLoops}

theorem exchanged_append (log es : List HeartbeatEvent) :
    exchanged (log ++ es) = exchanged log ++ exchanged es :=
  List.filter_append ..

/-- What a loop does without touching the bytes keeps the loops in step. -/
theorem keeps_frame (h : InStep log s) {client : BeatPc} {server : AckPc}
    {background changed senderGone : Bool} {now : Nat} (hes : exchanged es = [])
    (hharmless : ∀ e ∈ es, isHarmless e = true)
    (hbusy : isBusy client = true → isBusy s.client = true)
    (hbetween : isBetween client = true → isBetween s.client = true) :
    Keeps log ({ s with client, server, background, changed, senderGone, now }, es) := by
  have hlog : exchanged (log ++ es) = exchanged log := by
    rw [exchanged_append, hes, List.append_nil]
  have hbusy' (hs : isBusy s.client = false) : isBusy client = false := by
    rw [Bool.eq_false_iff] at hs ⊢
    exact mt hbusy hs
  have hbetween' (hs : isBetween s.client = false) : isBetween client = false := by
    rw [Bool.eq_false_iff] at hs ⊢
    exact mt hbetween hs
  refine ⟨?_, hharmless⟩
  cases h with
  | resting n hseq h =>
    exact .resting n hseq { h with log := hlog.trans h.log, client := hbusy' h.client }
  | asking n hseq h =>
    exact .asking n hseq { h with log := hlog.trans h.log, client := hbetween' h.client }
  | answering n hseq h =>
    exact .answering n hseq { h with log := hlog.trans h.log, client := hbetween' h.client }

/-- A beat begins when nothing is under way. -/
theorem keeps_sendBeat (h : InStep log s) (hclient : isBetween s.client = true) (interval : Nat) :
    Keeps log (s.sendBeat interval) := by
  unfold HeartbeatLoops.sendBeat
  dsimp only
  rw [writeMessage_toJson]
  refine ⟨?_, by simp [isHarmless]⟩
  cases h with
  | resting n hseq h =>
    have hnext : s.seq + 1 = .ofNat (n + 1) := by
      rw [hseq]
      exact (UInt64.ofNat_add n 1).symm
    refine .asking n hnext ⟨?_, rfl, ?_, h.serverOut, h.down, h.clientIn⟩
    · rw [exchanged_append, h.log, hnext]
      rfl
    · rw [h.serverIn]
      exact .start h.up
  | asking _ _ h | answering _ _ h => exact absurd hclient (by simp [h.client])

variable {n : Nat} {p q : Pipe UInt8} {taken rest : List UInt8}

theorem get_of_taken {got : List UInt8} (h : HeartbeatLoops.taken p got n = some (taken, q)) :
    p.get n = some (taken, q) := by
  unfold HeartbeatLoops.taken at h
  split at h
  · exact (Option.ite_none_right_eq_some.1 h).2
  · cases h

theorem flight_ne_nil_of_get (h : p.get n = some (taken, q)) : p.flight ≠ [] := by
  obtain ⟨hpos, hle, -⟩ := Pipe.get_eq_some_iff.1 h
  rintro hnil
  simp only [hnil, List.length_nil] at hle
  omega

theorem out_ne_nil_of_put {out : List UInt8} (h : p.put n out = some (q, rest)) : out ≠ [] := by
  obtain ⟨-, hpos, hle, -⟩ := Pipe.put_eq_some_iff.1 h
  rintro rfl
  simp only [List.length_nil] at hle
  omega

/-- The server answers the heartbeat once it has all of it. -/
theorem keeps_serverGot (hround : ∀ msg : ControlMsg, decodeControl msg.toJson = .ok msg)
    (h : InStep log s) {up : Pipe UInt8} (hget : s.up.get n = some (taken, up)) :
    Keeps log (HeartbeatLoops.serverGot decodeControl { s with up } (s.serverIn ++ taken)) := by
  have hsome := flight_ne_nil_of_get hget
  cases h with
  | resting _ _ h | answering _ _ h => exact absurd h.up hsome
  | asking k hseq h =>
    have hup := h.up.get hget
    unfold HeartbeatLoops.serverGot
    rcases readProgress_of_isPrefix hup.got_isPrefix with ⟨-, needed, hread⟩ | ⟨hall, hread⟩
    · rw [hread]
      refine ⟨.asking k hseq ?_, nofun⟩
      exact ⟨by simpa using h.log, h.client, hup, h.serverOut, h.down, h.clientIn⟩
    rw [hread]
    dsimp only
    rw [hround]
    dsimp only
    rw [writeMessage_toJson]
    rw [hall] at hup
    obtain ⟨hout, hflight⟩ := hup.whole
    refine ⟨.answering k hseq ⟨?_, h.client, hout, hflight, rfl, ?_⟩, by simp [isHarmless]⟩
    · rw [exchanged_append, h.log, hseq, List.append_assoc]
      rfl
    · rw [h.clientIn]
      exact .start h.down

/-- The client takes the acknowledgement once it has all of it. -/
theorem keeps_clientGot (hround : ∀ msg : ControlMsg, decodeControl msg.toJson = .ok msg)
    (h : InStep log s) {down : Pipe UInt8} (hget : s.down.get n = some (taken, down)) :
    Keeps log (HeartbeatLoops.clientGot decodeControl { s with down } (s.clientIn ++ taken)) := by
  have hsome := flight_ne_nil_of_get hget
  cases h with
  | resting _ _ h | asking _ _ h => exact absurd h.down hsome
  | answering k hseq h =>
    have hdown := h.down.get hget
    unfold HeartbeatLoops.clientGot
    rcases readProgress_of_isPrefix hdown.got_isPrefix with ⟨-, needed, hread⟩ | ⟨hall, hread⟩
    · rw [hread]
      refine ⟨.answering k hseq ?_, nofun⟩
      exact ⟨by simpa using h.log, h.client, h.clientOut, h.up, h.serverIn, hdown⟩
    rw [hread]
    dsimp only
    rw [hround]
    dsimp only
    rw [if_pos rfl]
    rw [hall] at hdown
    obtain ⟨hout, hflight⟩ := hdown.whole
    refine ⟨.resting (k + 1) hseq ⟨?_, rfl, h.clientOut, h.up, h.serverIn, hout, hflight, rfl⟩,
      by simp [isHarmless]⟩
    rw [exchanged_append, h.log, hseq, conversation, List.append_assoc]
    rfl

theorem InStep.clientWrite (h : InStep log s) {up : Pipe UInt8}
    (hput : s.up.put n s.clientOut = some (up, rest)) :
    InStep log { s with up, clientOut := rest } := by
  have hsome := out_ne_nil_of_put hput
  cases h with
  | resting _ _ h | answering _ _ h => exact absurd h.clientOut hsome
  | asking k hseq h => exact .asking k hseq { h with up := h.up.put hput }

theorem InStep.serverWrite (h : InStep log s) {down : Pipe UInt8}
    (hput : s.down.put n s.serverOut = some (down, rest)) :
    InStep log { s with down, serverOut := rest } := by
  have hsome := out_ne_nil_of_put hput
  cases h with
  | resting _ _ h | asking _ _ h => exact absurd h.serverOut hsome
  | answering k hseq h => exact .answering k hseq { h with down := h.down.put hput }

theorem InStep.close (h : InStep log s) (keep : Nat) :
    InStep log { s with up := s.up.close keep } ∧
      InStep log { s with down := s.down.close keep } := by
  have hempty {p : Pipe UInt8} (hp : p.flight = []) : (p.close keep).flight = [] := by
    rw [Pipe.close, hp, List.take_nil]
  cases h with
  | resting k hseq h =>
    exact ⟨.resting k hseq { h with up := hempty h.up },
      .resting k hseq { h with down := hempty h.down }⟩
  | asking k hseq h =>
    exact ⟨.asking k hseq { h with up := h.up.close keep },
      .asking k hseq { h with down := hempty h.down }⟩
  | answering k hseq h =>
    exact ⟨.answering k hseq { h with up := hempty h.up },
      .answering k hseq { h with down := h.down.close keep }⟩

theorem keeps_silent (h : InStep log t) : Keeps log (t, []) :=
  ⟨by simpa using h, nofun⟩

/-- Every step keeps the loops in step, and ends one only from outside. -/
theorem keeps_step (hround : ∀ msg : ControlMsg, decodeControl msg.toJson = .ok msg)
    (h : InStep log s) {l : HeartbeatLabel} (hstep : s.step decodeControl l = some (t, es)) :
    Keeps log (t, es) := by
  cases l with
  | tick d | dropSender =>
    cases hstep
    exact keeps_frame h rfl nofun id id
  | setBackground background =>
    obtain ⟨-, ⟨⟩⟩ := Option.ite_none_left_eq_some.1 hstep
    exact keeps_frame h rfl nofun id id
  | closeUp keep =>
    cases hstep
    exact keeps_silent (h.close keep).1
  | closeDown keep =>
    cases hstep
    exact keeps_silent (h.close keep).2
  | cadenceChanged =>
    simp only [HeartbeatLoops.step] at hstep
    split at hstep
    next lastBeat interval hclient =>
      have hbetween : isBetween s.client = true := by rw [hclient]; rfl
      split at hstep
      · cases hstep
        exact keeps_frame h rfl nofun nofun fun _ => hbetween
      · obtain ⟨-, ⟨⟩⟩ := Option.ite_none_right_eq_some.1 hstep
        exact keeps_frame h rfl nofun nofun fun _ => hbetween
    · cases hstep
  | beat =>
    simp only [HeartbeatLoops.step] at hstep
    split at hstep
    iterate 2
      next lastBeat interval hclient =>
        obtain ⟨-, hstep⟩ := Option.ite_none_right_eq_some.1 hstep
        rw [← Option.some.inj hstep]
        exact keeps_sendBeat h (by rw [hclient]; rfl) interval
    · cases hstep
  | clientWrite n =>
    simp only [HeartbeatLoops.step] at hstep
    split at hstep
    · obtain ⟨⟨up, rest⟩, hput, ⟨⟩⟩ := Option.map_eq_some_iff.1 hstep
      exact keeps_silent (h.clientWrite hput)
    · cases hstep
  | clientFlush =>
    simp only [HeartbeatLoops.step] at hstep
    split at hstep
    next interval hclient =>
      obtain ⟨-, ⟨⟩⟩ := Option.ite_none_right_eq_some.1 hstep
      exact keeps_frame h rfl nofun (fun _ => by rw [hclient]; rfl) nofun
    · cases hstep
  | clientRead n =>
    simp only [HeartbeatLoops.step] at hstep
    split at hstep
    · obtain ⟨⟨taken, down⟩, htaken, heq⟩ := Option.map_eq_some_iff.1 hstep
      rw [← heq]
      exact keeps_clientGot hround h (get_of_taken htaken)
    · cases hstep
  | clientTimeout | clientClosed =>
    simp only [HeartbeatLoops.step] at hstep
    split at hstep <;> try cases hstep
    all_goals
      obtain ⟨-, hstep⟩ := Option.ite_none_right_eq_some.1 hstep
      rw [← Option.some.inj hstep]
      exact keeps_frame h rfl (by simp [isHarmless, fromOutside]) nofun nofun
  | serverRead n =>
    simp only [HeartbeatLoops.step] at hstep
    split at hstep
    · obtain ⟨⟨taken, up⟩, htaken, heq⟩ := Option.map_eq_some_iff.1 hstep
      rw [← heq]
      exact keeps_serverGot hround h (get_of_taken htaken)
    · cases hstep
  | serverWrite n =>
    simp only [HeartbeatLoops.step] at hstep
    split at hstep
    · obtain ⟨⟨down, rest⟩, hput, ⟨⟩⟩ := Option.map_eq_some_iff.1 hstep
      exact keeps_silent (h.serverWrite hput)
    · cases hstep
  | serverFlush =>
    simp only [HeartbeatLoops.step] at hstep
    split at hstep
    · obtain ⟨-, ⟨⟩⟩ := Option.ite_none_right_eq_some.1 hstep
      exact keeps_frame h rfl nofun id id
    · cases hstep
  | serverTimeout | serverClosed =>
    simp only [HeartbeatLoops.step] at hstep
    split at hstep <;> try cases hstep
    all_goals
      obtain ⟨-, hstep⟩ := Option.ite_none_right_eq_some.1 hstep
      rw [← Option.some.inj hstep]
      exact keeps_frame h rfl (by simp [isHarmless, fromOutside]) id id

/-! ## Whole runs -/

/-- The loops are in step in every run. -/
theorem inStep_of_run (hround : ∀ msg : ControlMsg, decodeControl msg.toJson = .ok msg)
    {ls : List HeartbeatLabel} (hinit : (heartbeatLoops decodeControl).init s)
    (hrun : (heartbeatLoops decodeControl).run s ls = some (t, log)) :
    InStep log t ∧ ∀ e ∈ log, isHarmless e = true := by
  refine (heartbeatLoops decodeControl).log_rule
    (P := fun log s => InStep log s ∧ ∀ e ∈ log, isHarmless e = true) ?_ ?_ hrun
  · rintro log s l t es ⟨h, hlog⟩ hstep
    obtain ⟨hnext, hes⟩ := keeps_step hround h hstep
    refine ⟨hnext, fun e he => ?_⟩
    rcases List.mem_append.1 he with he | he
    · exact hlog e he
    · exact hes e he
  · obtain ⟨hclient, hseq, hclientOut, hclientIn, -, hserverOut, hserverIn, hup, hdown⟩ := hinit
    refine ⟨.resting 0 hseq ⟨rfl, by rw [hclient]; rfl, hclientOut, ?_, hserverIn, hserverOut, ?_,
      hclientIn⟩, nofun⟩
    · rw [hup]
    · rw [hdown]

end Steps

/-- A beat of the client, and its acknowledgement. -/
def isBeat : HeartbeatEvent → Bool
  | .beat _ => true
  | _ => false

@[inherit_doc isBeat]
def isAcked : HeartbeatEvent → Bool
  | .acked _ => true
  | _ => false

theorem countP_exchanged {p : HeartbeatEvent → Bool} (log : List HeartbeatEvent)
    (hp : ∀ e, p (.clientEnded e) = false ∧ p (.serverEnded e) = false) :
    (exchanged log).countP p = log.countP p := by
  rw [exchanged, List.countP_filter]
  apply List.countP_congr
  intro e _
  cases e with
  | clientEnded e => simp [(hp e).1]
  | serverEnded e => simp [(hp e).2]
  | _ => simp

/-- A beginning of the conversation has at most one beat without its acknowledgement. -/
theorem countP_conversation {n : Nat} {es : List HeartbeatEvent} (h : es <+: conversation n) :
    es.countP isBeat ≤ es.countP isAcked + 1 := by
  have hwhole (n : Nat) : (conversation n).countP isBeat = (conversation n).countP isAcked := by
    induction n with
    | zero => rfl
    | succ n ih =>
      rw [conversation, List.countP_append, List.countP_append, ih]
      rfl
  induction n with
  | zero => simp [List.prefix_nil.1 h]
  | succ n ih =>
    rcases List.prefix_or_prefix_of_prefix h (List.prefix_append _ _) with hshort | hlong
    · exact ih hshort
    obtain ⟨last, rfl⟩ := hlong
    have hlast : last <+: exchange (n + 1) := (List.prefix_append_right_inj _).1 h
    have hcount : last.countP isBeat ≤ 1 := by
      have hle := hlast.sublist.countP_le (p := isBeat)
      have hone : (exchange (n + 1)).countP isBeat = 1 := rfl
      omega
    rw [List.countP_append, List.countP_append, hwhole]
    omega

theorem InStep.exchanged_isPrefix {log : List HeartbeatEvent} {s : HeartbeatLoops}
    (h : InStep log s) : ∃ n, exchanged log <+: conversation n := by
  cases h with
  | resting n hseq h => exact ⟨n, h.log ▸ List.prefix_refl _⟩
  | asking n hseq h =>
    refine ⟨n + 1, ?_⟩
    rw [h.log, conversation, List.prefix_append_right_inj]
    exact ⟨[.heard _, .acked _], rfl⟩
  | answering n hseq h =>
    refine ⟨n + 1, ?_⟩
    rw [h.log, conversation, List.prefix_append_right_inj]
    exact ⟨[.acked _], rfl⟩

/-- **The loops stay in step.** Whatever the schedule, a loop ends by a timeout or because the
stream was closed and by nothing else; what passes between the loops is a beginning of the one
conversation; and at no point is more than one heartbeat unacknowledged. -/
theorem heartbeats_stay_in_step {decodeControl : List UInt8 → Except String ControlMsg}
    (hround : ∀ msg : ControlMsg, decodeControl msg.toJson = .ok msg) {s t : HeartbeatLoops}
    {ls : List HeartbeatLabel} {log : List HeartbeatEvent}
    (hinit : (heartbeatLoops decodeControl).init s)
    (hrun : (heartbeatLoops decodeControl).run s ls = some (t, log)) :
    (∀ e, .clientEnded e ∈ log ∨ .serverEnded e ∈ log → fromOutside e = true) ∧
      (∃ n, exchanged log <+: conversation n) ∧
      ∀ pre, pre <+: log → pre.countP isBeat ≤ pre.countP isAcked + 1 := by
  obtain ⟨hstep, hharmless⟩ := inStep_of_run hround hinit hrun
  obtain ⟨n, hn⟩ := hstep.exchanged_isPrefix
  refine ⟨?_, ⟨n, hn⟩, ?_⟩
  · rintro e (he | he) <;> exact hharmless _ he
  intro pre hpre
  have hbegin : exchanged pre <+: exchanged log := hpre.filter _
  have hcount := countP_conversation (hbegin.trans hn)
  have hbeats : (exchanged pre).countP isBeat = pre.countP isBeat :=
    countP_exchanged pre fun _ => ⟨rfl, rfl⟩
  have hacks : (exchanged pre).countP isAcked = pre.countP isAcked :=
    countP_exchanged pre fun _ => ⟨rfl, rfl⟩
  rwa [hbeats, hacks] at hcount

/-! ## One beat -/

theorem toJson_injective : Function.Injective ControlMsg.toJson := by
  have hvalue {key : String} {n m : Nat}
      (h : JsonText.object [(key, JsonText.object [("seq", JsonText.number n)])] =
        JsonText.object [(key, JsonText.object [("seq", JsonText.number m)])]) : n = m := by
    have hbytes : utf8 (toString n) = utf8 (toString m) := by
      simpa [JsonText.object, JsonText.number] using h
    have htext := congrArg ofUtf8 hbytes
    rw [ofUtf8_utf8, ofUtf8_utf8] at htext
    have hdigits : Nat.toDigits 10 n = Nat.toDigits 10 m := by
      have hrepr : n.repr = m.repr := Option.some.inj htext
      rwa [Nat.repr_eq_ofList_toDigits, Nat.repr_eq_ofList_toDigits, String.ofList_inj] at hrepr
    rw [← Nat.ofDigitChars_toDigits (b := 10) (n := n) (by decide) (by decide), hdigits,
      Nat.ofDigitChars_toDigits (by decide) (by decide)]
  have hbeat : JsonText.string "Heartbeat" = [34, 72, 101, 97, 114, 116, 98, 101, 97, 116, 34] := by
    decide
  have hack : JsonText.string "HeartbeatAck" =
      [34, 72, 101, 97, 114, 116, 98, 101, 97, 116, 65, 99, 107, 34] := by decide
  rintro (seq | seq) (seq' | seq') h
  · rw [UInt64.toNat_inj.1 (hvalue h)]
  iterate 2 · simp [ControlMsg.toJson, JsonText.object, hbeat, hack] at h
  · rw [UInt64.toNat_inj.1 (hvalue h)]

def freshLoops : HeartbeatLoops where
  client := .waiting 0 heartbeatInterval
  seq := 0
  clientOut := []
  clientIn := []
  server := .reading livenessWindow
  serverOut := []
  serverIn := []
  up := {}
  down := {}
  background := false
  changed := false
  senderGone := false
  now := 0

def oneBeat : List HeartbeatLabel :=
  [.tick heartbeatInterval, .beat, .clientWrite 3, .serverRead 2, .setBackground true,
    .clientWrite 24, .clientFlush, .serverRead 2, .serverRead 23, .serverWrite 30, .clientRead 4,
    .serverFlush, .clientRead 26, .cadenceChanged]

instance : Nonempty ControlMsg := ⟨.heartbeat 0⟩

/-- A decoder: the inverse of the encoder, which finds the messages of this run without a
search. -/
noncomputable def inverseDecoder (data : List UInt8) : Except String ControlMsg :=
  if data = (ControlMsg.heartbeat 1).toJson then .ok (.heartbeat 1)
  else if data = (ControlMsg.heartbeatAck 1).toJson then .ok (.heartbeatAck 1)
  else .ok (Function.invFun ControlMsg.toJson data)

theorem inverseDecoder_toJson (msg : ControlMsg) : inverseDecoder msg.toJson = .ok msg := by
  unfold inverseDecoder
  split
  next h => rw [toJson_injective h]
  · split
    next h => rw [toJson_injective h]
    · rw [Function.leftInverse_invFun toJson_injective msg]

theorem heartbeats_stay_in_step_instance :
    ∃ t, (heartbeatLoops inverseDecoder).run freshLoops oneBeat =
        some (t, [.beat 1, .heard 1, .acked 1]) ∧
      ∃ n, exchanged [.beat 1, .heard 1, .acked 1] <+: conversation n := by
  have heval : ((heartbeatLoops inverseDecoder).run freshLoops oneBeat).map Prod.snd =
      some [.beat 1, .heard 1, .acked 1] := by decide +kernel
  obtain ⟨t, hrun⟩ := (heartbeatLoops inverseDecoder).exists_run_of_log heval
  have hinit : (heartbeatLoops inverseDecoder).init freshLoops :=
    ⟨rfl, rfl, rfl, rfl, rfl, rfl, rfl, rfl, rfl⟩
  exact ⟨t, hrun, (heartbeats_stay_in_step inverseDecoder_toJson hinit hrun).2.1⟩

end Flextunnel.Analysis
