import Flextunnel.Model.Frontends

/-!
# The HTTP front-end and its socket

`readHttpRequest` says what the bytes of a request head mean. Here is the same function with the
socket it works on: what it takes off the stream, also when it fails, and every response it writes
before it does. The two agree (`readRequestOn_run`).

A stream is the bytes that come before it ends; an error of the transport is an end as well. A
response that could not be written counts as written: the connection is over either way.

Unnamed source lines are of `core/proxy/http.rs`.
-/

set_option autoImplicit false

namespace Flextunnel.Model

open Lib Lib.Reader

structure HttpSocket where
  rest : List UInt8
  written : List (List UInt8) := []
deriving DecidableEq, Repr

abbrev OnSocket := ExceptT HttpError (StateM HttpSocket)

/-- SOURCE: 403-411 -/
def writeError (code : Nat) (reason : String) : OnSocket Unit :=
  modify fun s => { s with written := s.written ++ [httpError code reason] }

/-- The loop over the bytes of a stream: how it ends, and the bytes it leaves.
SOURCE: 98-108 -/
def headLoop (head : List UInt8) : List UInt8 → Except HttpError (List UInt8) × List UInt8
  | [] => (.error .eof, [])
  | b :: rest =>
    if [13, 10, 13, 10].isSuffixOf (head ++ [b]) then (.ok (head ++ [b]), rest)
    else if maxHttpHeader ≤ (head ++ [b]).length then (.error .oversized, rest)
    else headLoop (head ++ [b]) rest

/-- SOURCE: 98-108 -/
def readHeadOn : OnSocket (List UInt8) := do
  let (head, rest) := headLoop [] (← get).rest
  modify fun s => { s with rest }
  match head with
  | .ok head => return head
  | .error .oversized => do
    writeError 400 "Bad Request"
    throw .oversized
  | .error e => throw e

/-- The request of a request line and the headers after it.
SOURCE: 132-184 -/
def requestOn (line : String) (headerBlock : List UInt8) : OnSocket HttpRequest :=
  match Text.splitChar ' ' line with
  | [method, requestTarget, version] =>
    if method = "" || requestTarget = "" || version = "" then do
      writeError 400 "Bad Request"
      throw (.malformedLine line)
    else if version ≠ "HTTP/1.1" ∧ version ≠ "HTTP/1.0" then do
      writeError 505 "HTTP Version Not Supported"
      throw (.version version)
    else if Text.eqIgnoreAsciiCase method "CONNECT" then
      match splitAuthority requestTarget none with
      | none => do
        writeError 400 "Bad Request"
        throw (.connectAuthority requestTarget)
      | some (host, port) => return .connect (hostToTarget host port)
    else
      match rewriteForward method requestTarget version headerBlock with
      | .ok (target, head) => return .forward target head
      | .error reject => do
        if let some (code, reason) := reject.status then
          writeError code reason
        throw reject
  | _ => do
    writeError 400 "Bad Request"
    throw (.malformedLine line)

/-- The request of a head.
SOURCE: 110-184 -/
def headOn (head : List UInt8) : OnSocket HttpRequest :=
  let (lineBytes, after) := (splitCrlf head).getD (head, [])
  match ofUtf8 lineBytes with
  | none => do
    writeError 400 "Bad Request"
    throw .lineUtf8
  | some line =>
    if lineBytes.any isAsciiControl then do
      writeError 400 "Bad Request"
      throw .lineControl
    else requestOn line (after.take (after.length - 2))

/-- SOURCE: 92-184 -/
def readRequestOn : OnSocket HttpRequest := do
  let head ← readHeadOn
  headOn head

/-! ## What is written -/

def HttpError.responses (e : HttpError) : List (List UInt8) :=
  match e.status with
  | none => []
  | some (code, reason) => [httpError code reason]

def HttpSocket.answer (s : HttpSocket) : Except HttpError HttpRequest → HttpSocket
  | .ok _ => s
  | .error e => { s with written := s.written ++ e.responses }

theorem HttpSocket.answer_eof (s : HttpSocket) : s.answer (.error .eof) = s :=
  congrArg (HttpSocket.mk s.rest) (List.append_nil s.written)

theorem requestOn_run (line : String) (block : List UInt8) (s : HttpSocket) :
    (requestOn line block).run.run s =
      (parseRequest line block, s.answer (parseRequest line block)) := by
  unfold requestOn parseRequest
  match Text.splitChar ' ' line with
  | [method, requestTarget, version] =>
    dsimp only
    split
    · rfl
    split
    · rfl
    split
    · cases splitAuthority requestTarget none with
      | none => rfl
      | some r => rfl
    cases rewriteForward method requestTarget version block with
    | ok r => rfl
    | error e =>
      cases e with
      | eof => exact congrArg (Prod.mk _) (s.answer_eof).symm
      | _ => rfl
  | [] => rfl
  | [_] => rfl
  | [_, _] => rfl
  | _ :: _ :: _ :: _ :: _ => rfl

/-- The loop over the socket reads the head that the pure reader reads. -/
theorem headLoop_eq_ok_iff {head bytes head' rest : List UInt8} :
    headLoop head bytes = (.ok head', rest) ↔ readHeadFrom head bytes = .ok (head', rest) := by
  induction bytes generalizing head with
  | nil => simp [headLoop, readHeadFrom]
  | cons b bytes ih =>
    simp only [headLoop, readHeadFrom]
    split
    · simp
    · split
      · simp
      · exact ih

theorem headLoop_error {head bytes rest : List UInt8} {e : HttpError}
    (h : headLoop head bytes = (.error e, rest)) : e = .eof ∨ e = .oversized := by
  induction bytes generalizing head with
  | nil => exact .inl (Except.error.inj (Prod.mk.inj h).1).symm
  | cons b bytes ih =>
    simp only [headLoop] at h
    split at h
    · cases (Prod.mk.inj h).1
    · split at h
      · exact .inr (Except.error.inj (Prod.mk.inj h).1).symm
      · exact ih h

/-- A head that cannot be read is answered with its error. -/
theorem readHeadOn_run (s : HttpSocket) :
    readHeadOn.run.run s =
      match headLoop [] s.rest with
      | (.ok head, rest) => (.ok head, { s with rest })
      | (.error e, rest) => (.error e, { s with rest }.answer (.error e)) := by
  have hrun : readHeadOn.run.run s =
      (match (headLoop [] s.rest).1 with
        | .ok head => (pure head : OnSocket (List UInt8))
        | .error HttpError.oversized => do
          writeError 400 "Bad Request"
          throw HttpError.oversized
        | .error e => throw e).run.run { s with rest := (headLoop [] s.rest).2 } := rfl
  rw [hrun]
  rcases hloop : headLoop [] s.rest with ⟨e | head, rest⟩
  · rcases headLoop_error hloop with rfl | rfl
    · exact congrArg (Prod.mk _) (HttpSocket.answer_eof _).symm
    · rfl
  · rfl

theorem headOn_run (head : List UInt8) (s : HttpSocket) :
    (headOn head).run.run s = (parseHead head, s.answer (parseHead head)) := by
  unfold headOn parseHead
  obtain ⟨lineBytes, after⟩ := (splitCrlf head).getD (head, [])
  dsimp only
  cases ofUtf8 lineBytes with
  | none => rfl
  | some line =>
    dsimp only
    split
    · rfl
    · exact requestOn_run line _ s

/-- What is read from the socket, and what is answered there. -/
theorem readRequestOn_run (s : HttpSocket) :
    readRequestOn.run.run s =
      match headLoop [] s.rest with
      | (.ok head, rest) => (parseHead head, { s with rest }.answer (parseHead head))
      | (.error e, rest) => (.error e, { s with rest }.answer (.error e)) := by
  have hhead := readHeadOn_run s
  unfold readRequestOn
  rw [ExceptT.run_bind, StateT.run_bind, hhead]
  rcases headLoop [] s.rest with ⟨e | head, rest⟩
  · rfl
  · exact headOn_run head { s with rest }

/-- The exchange accepts exactly the requests of the pure reader, and answers none of them. -/
theorem readRequestOn_eq_ok_iff {s : HttpSocket} {request : HttpRequest} {rest : List UInt8} :
    readRequestOn.run.run s = (.ok request, { s with rest }) ↔
      readHttpRequest.run s.rest = .ok (request, rest) := by
  have hpure : readHttpRequest.run s.rest = .ok (request, rest) ↔
      ∃ head, headLoop [] s.rest = (.ok head, rest) ∧ parseHead head = .ok request := by
    simp only [headLoop_eq_ok_iff]
    constructor
    · intro h
      obtain ⟨⟨head, rest'⟩, hread, h⟩ := bind_eq_ok.1 h
      obtain ⟨request', hparse, h⟩ := bind_eq_ok.1 h
      cases h
      exact ⟨head, hread, hparse⟩
    · rintro ⟨head, hread, hparse⟩
      exact bind_eq_ok.2 ⟨(head, rest), hread, bind_eq_ok.2 ⟨request, hparse, rfl⟩⟩
  rw [hpure, readRequestOn_run]
  rcases headLoop [] s.rest with ⟨e | head, left⟩
  · constructor
    · intro h
      cases (Prod.mk.inj h).1
    · rintro ⟨head, hloop, -⟩
      cases (Prod.mk.inj hloop).1
  constructor
  · intro h
    obtain ⟨hparse, hsocket⟩ := Prod.mk.inj h
    rw [hparse] at hsocket
    have hleft : left = rest := congrArg HttpSocket.rest hsocket
    exact ⟨head, by rw [hleft], hparse⟩
  rintro ⟨head', hloop, hparse⟩
  obtain ⟨hhead, rfl⟩ := Prod.mk.inj hloop
  cases hhead
  dsimp only
  rw [hparse]
  rfl

end Flextunnel.Model
