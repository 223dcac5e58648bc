import Flextunnel.Lib.Lines
import Flextunnel.Lib.Matching
import Flextunnel.Model.Frontends

/-!
# The head of a forwarded request

What the HTTP front-end sends to an origin, against what it received. `ForwardRequest` is
a plain-HTTP request as the application wrote it, down to the whitespace before a header's
colon; `received` prints it, and `sentLines` are the lines the origin is to see.
-/

set_option autoImplicit false

namespace Flextunnel.Analysis

open Lib Lib.Reader Model

/-! ## A request as it was written -/

/-- `u8::is_ascii_whitespace`. -/
def isAsciiSpace (b : UInt8) : Bool := b = 32 || b = 9 || b = 10 || b = 12 || b = 13

structure Field where
  name : String
  gap : List UInt8
  value : List UInt8

def Field.received (f : Field) : List UInt8 := utf8 f.name ++ f.gap ++ 58 :: f.value

def Field.sent (f : Field) : List UInt8 := utf8 f.name ++ 58 :: f.value

def Field.header (f : Field) : HeaderLine := ⟨f.name, f.value⟩

/-- What a field has to satisfy: the name holds no control byte and no colon, whitespace
alone stands before the colon, and the value does not end a line. -/
structure Field.WellFormed (f : Field) : Prop where
  name_plain : ∀ b ∈ utf8 f.name, isAsciiControl b = false ∧ b ≠ 58
  name_end : Text.trimAsciiEnd f.name = f.name
  gap_space : ∀ b ∈ f.gap, isAsciiSpace b = true
  one_line : NoCrlf f.received
  not_folded : ∀ b ∈ f.received.head?, b ≠ 32 ∧ b ≠ 9
  value_plain : ∀ b ∈ f.value, b ≠ 13 ∧ b ≠ 10 ∧ b ≠ 0

def Lists (headers : List HeaderLine) (name : String) : Prop :=
  ∃ g ∈ headers, (Text.eqIgnoreAsciiCase g.name "connection" = true ∨
      Text.eqIgnoreAsciiCase g.name "proxy-connection" = true) ∧
    ∃ option ∈ Text.splitChar ',' (ofUtf8Lossy g.value),
      Text.eqIgnoreAsciiCase (Text.trim option) name = true

instance (headers : List HeaderLine) (name : String) : Decidable (Lists headers name) :=
  inferInstanceAs (Decidable (∃ g ∈ headers, _ ∧ ∃ option ∈ _, _))

/-- A plain-HTTP request. `pathQuery` is what follows the authority of its URI. -/
structure ForwardRequest where
  method : String
  scheme : String
  authority : String
  pathQuery : String
  version : String
  fields : List Field

namespace ForwardRequest

variable (r : ForwardRequest)

def uri : String := r.scheme ++ r.authority ++ r.pathQuery

def requestLine : String := r.method ++ " " ++ r.uri ++ " " ++ r.version

def received : List UInt8 :=
  terminated (utf8 r.requestLine :: r.fields.map Field.received ++ [[]])

structure WellFormed : Prop where
  method_ne : r.method ≠ ""
  method_plain : ' ' ∉ r.method.toList
  uri_plain : ' ' ∉ r.uri.toList
  version_eq : r.version = "HTTP/1.1" ∨ r.version = "HTTP/1.0"
  line_plain : ∀ b ∈ utf8 r.requestLine, isAsciiControl b = false
  scheme_http : Text.eqIgnoreAsciiCase r.scheme "http://" = true
  authority_plain : '/' ∉ r.authority.toList ∧ '?' ∉ r.authority.toList
  pathQuery_start : ∀ c ∈ r.pathQuery.toList.head?, c = '/' ∨ c = '?'
  fields_wellFormed : ∀ f ∈ r.fields, f.WellFormed

/-! ## A request as it is sent -/

def path : String :=
  if r.pathQuery.toList.head? = some '/' then r.pathQuery else "/" ++ r.pathQuery

def Dropped (f : Field) : Prop :=
  (∃ name ∈ strippedHeaders, Text.eqIgnoreAsciiCase name f.name = true) ∨
    Lists (r.fields.map Field.header) f.name

instance (f : Field) : Decidable (r.Dropped f) :=
  inferInstanceAs (Decidable ((∃ name ∈ strippedHeaders, _) ∨ _))

def sentLines : List (List UInt8) :=
  utf8 (r.method ++ " " ++ r.path ++ " " ++ r.version) :: utf8 ("Host: " ++ r.authority) ::
    ((r.fields.filter fun f => ¬ r.Dropped f).map Field.sent ++ [utf8 "Connection: close"])

end ForwardRequest

/-! ## Header lines -/

theorem isAsciiSpace_of_mem_utf8 {tail : List Char}
    (htail : ∀ c ∈ tail, c = ' ' ∨ c = '\t' ∨ c = '\n' ∨ c = '\x0c' ∨ c = '\r') :
    ∀ b ∈ utf8 (String.ofList tail), isAsciiSpace b = true := by
  have hascii : ∀ c ∈ tail, c.toNat < 128 := by
    intro c hc
    rcases htail c hc with rfl | rfl | rfl | rfl | rfl <;> decide
  rw [utf8_ofList_of_ascii hascii]
  intro b hb
  obtain ⟨c, hc, rfl⟩ := List.mem_map.1 hb
  rcases htail c hc with rfl | rfl | rfl | rfl | rfl <;> decide

variable {line bytes head rest block : List UInt8} {h : HeaderLine} {headers : List HeaderLine}
    {target : Target}

theorem eq_append_of_dropWhile_colon {value : List UInt8} {b : UInt8}
    (h : line.dropWhile (· != 58) = b :: value) :
    line = line.takeWhile (· != 58) ++ 58 :: value := by
  have hb : b = 58 := by
    have hhead := List.head?_dropWhile_not (fun c : UInt8 => c != 58) line
    rw [h] at hhead
    simpa using hhead
  have hsplit := List.takeWhile_append_dropWhile (p := fun c : UInt8 => c != 58) (l := line)
  rw [h, hb] at hsplit
  exact hsplit.symm

/-- A line that is accepted as a header is a well-formed field. -/
theorem headerLine_eq_ok (hline : NoCrlf line) (hok : headerLine line = .ok h) :
    ∃ f : Field, f.WellFormed ∧ f.received = line ∧ f.header = h := by
  unfold headerLine at hok
  split at hok
  · cases hok
  next hfold =>
  split at hok
  · cases hok
  next b value hvalue =>
  split at hok
  · cases hok
  next text htext =>
  dsimp only at hok
  split at hok
  · cases hok
  next hplain =>
  cases hok
  obtain ⟨tail, hname, htail⟩ := exists_trimAsciiEnd text
  have hbytes : utf8 text = line.takeWhile (· != 58) := utf8_of_ofUtf8 htext
  have hreceived : utf8 (Text.trimAsciiEnd text) ++ utf8 (String.ofList tail) ++ 58 :: value =
      line := by
    rw [← utf8_append, ← hname, hbytes]
    exact (eq_append_of_dropWhile_colon hvalue).symm
  simp only [Bool.or_eq_true, List.any_eq_true, not_or, not_exists, not_and, decide_eq_true_eq]
    at hplain
  refine ⟨⟨Text.trimAsciiEnd text, utf8 (String.ofList tail), value⟩, ?_, hreceived, rfl⟩
  refine ⟨?_, trimAsciiEnd_trimAsciiEnd text, isAsciiSpace_of_mem_utf8 htail, ?_, ?_, ?_⟩
  · intro b hb
    refine ⟨by simpa using hplain.1 b hb, ?_⟩
    have hmem : b ∈ line.takeWhile (· != 58) := by
      rw [← hbytes, hname, utf8_append]
      exact List.mem_append_left _ hb
    simpa using List.mem_takeWhile_imp hmem
  · show NoCrlf (utf8 (Text.trimAsciiEnd text) ++ utf8 (String.ofList tail) ++ 58 :: value)
    rw [hreceived]
    exact hline
  · show ∀ b ∈ (utf8 (Text.trimAsciiEnd text) ++ utf8 (String.ofList tail) ++ 58 :: value).head?,
      b ≠ 32 ∧ b ≠ 9
    rw [hreceived]
    intro b hb
    rw [Option.mem_def.1 hb] at hfold
    simpa using hfold
  · intro b hb
    obtain ⟨⟨hcr, hlf⟩, hnul⟩ := hplain.2 b hb
    exact ⟨hcr, hlf, hnul⟩

theorem mapM_headerLine_eq_ok {lines : List (List UInt8)} (hlines : ∀ line ∈ lines, NoCrlf line)
    (hok : lines.mapM headerLine = .ok headers) :
    ∃ fields : List Field, (∀ f ∈ fields, f.WellFormed) ∧ fields.map Field.received = lines ∧
      fields.map Field.header = headers := by
  replace hok := forall₂_of_mapM_eq_ok hok
  induction hok with
  | nil => exact ⟨[], by simp, rfl, rfl⟩
  | @cons line h lines hs hh _ ih =>
    obtain ⟨f, hf, rfl, rfl⟩ := headerLine_eq_ok (hlines line (by simp)) hh
    obtain ⟨fields, hfields, rfl, rfl⟩ := ih fun l hl => hlines l (by simp [hl])
    exact ⟨f :: fields, List.forall_mem_cons.2 ⟨hf, hfields⟩, rfl, rfl⟩

/-! ## The request line -/

theorem crlf_suffix_readHeadFrom {head' : List UInt8}
    (h : readHeadFrom head bytes = .ok (head', rest)) : [13, 10, 13, 10] <:+ head' := by
  induction bytes generalizing head with
  | nil => simp [readHeadFrom] at h
  | cons b bytes ih =>
    simp only [readHeadFrom] at h
    split at h
    next hend =>
      cases h
      exact List.isSuffixOf_iff_suffix.1 hend
    · split at h
      · simp at h
      · exact ih h

/-- A head ends with a blank line after its header lines. -/
theorem exists_block {after : List UInt8} (hend : [13, 10, 13, 10] <:+ head)
    (hsplit : splitCrlf head = some (line, after)) :
    ∃ block, after = block ++ [13, 10] ∧ (block = [] ∨ [13, 10] <:+ block) := by
  obtain ⟨rfl, -⟩ := splitCrlf_eq_some hsplit
  have hlast : [13, 10] <:+ line ++ 13 :: 10 :: after := by
    refine List.IsSuffix.trans ?_ hend
    exact ⟨[13, 10], rfl⟩
  obtain ⟨block, rfl⟩ : [13, 10] <:+ after := by
    rcases crlf_suffix_rest hlast with rfl | hafter
    · -- the head would end in its first CR LF, one line early
      obtain ⟨before, heq⟩ := hend
      have hline : line = before ++ [13, 10] := by
        have heq' : (before ++ [13, 10]) ++ [13, 10] = line ++ [13, 10] := by simpa using heq
        exact (List.append_inj' heq' rfl).1.symm
      have hno := (splitCrlf_eq_some hsplit).2
      exact absurd ⟨before, [], by rw [hline]; simp⟩ hno
    · exact hafter
  refine ⟨block, rfl, ?_⟩
  have hblock : [13, 10] <:+ line ++ 13 :: 10 :: block := by
    obtain ⟨before, heq⟩ := hend
    have heq' : (before ++ [13, 10]) ++ [13, 10] = (line ++ 13 :: 10 :: block) ++ [13, 10] := by
      simpa using heq
    exact ⟨before, (List.append_inj' heq' rfl).1⟩
  exact crlf_suffix_rest hblock

/-- A request that is forwarded begins with a line and a block of headers. -/
theorem readHttpRequest_eq_forward
    (h : readHttpRequest.run bytes = .ok (.forward target head, rest)) :
    ∃ line block, bytes = utf8 line ++ 13 :: 10 :: (block ++ [13, 10]) ++ rest ∧
      (block = [] ∨ [13, 10] <:+ block) ∧ NoCrlf (utf8 line) ∧
      (∀ b ∈ utf8 line, isAsciiControl b = false) ∧
      parseRequest line block = .ok (.forward target head) := by
  have htook : Took readHttpRequest fun pre request =>
      [13, 10, 13, 10] <:+ pre ∧ parseHead pre = .ok request := by
    have hread : Took readHead fun pre received => pre = received ∧ [13, 10, 13, 10] <:+ pre := by
      intro bs received left hrun
      obtain ⟨pre, hbs, rfl⟩ := took_readHead bs received left hrun
      exact ⟨pre, hbs, rfl, crlf_suffix_readHeadFrom hrun⟩
    refine hread.bind fun received pre hpre => took_lift fun request hrequest => ?_
    obtain ⟨rfl, hend⟩ := hpre
    rw [List.append_nil]
    exact ⟨hend, hrequest⟩
  obtain ⟨pre, rfl, hend, hparse⟩ := htook bytes _ rest h
  have hlast : [13, 10] <:+ pre := List.IsSuffix.trans ⟨[13, 10], rfl⟩ hend
  obtain ⟨lineBytes, after, hsplit⟩ := exists_splitCrlf hlast
  obtain ⟨block, rfl, hblock⟩ := exists_block hend hsplit
  obtain ⟨rfl, hno⟩ := splitCrlf_eq_some hsplit
  unfold parseHead at hparse
  rw [hsplit] at hparse
  dsimp only [Option.getD_some] at hparse
  split at hparse
  · cases hparse
  next line hline =>
  split at hparse
  · cases hparse
  next hcontrol =>
  obtain rfl := utf8_of_ofUtf8 hline
  refine ⟨line, block, rfl, hblock, hno, ?_, ?_⟩
  · intro b hb
    apply Bool.eq_false_iff.2
    intro hb'
    exact hcontrol (List.any_eq_true.2 ⟨b, hb, hb'⟩)
  · simpa using hparse

/-- The line has three words. -/
theorem parseRequest_eq_forward {line : String}
    (h : parseRequest line block = .ok (.forward target head)) :
    ∃ method uri version, line = method ++ " " ++ uri ++ " " ++ version ∧ method ≠ "" ∧
      ' ' ∉ method.toList ∧ ' ' ∉ uri.toList ∧
      (version = "HTTP/1.1" ∨ version = "HTTP/1.0") ∧
      rewriteForward method uri version block = .ok (target, head) := by
  unfold parseRequest at h
  split at h
  next method uri version hpieces =>
    split at h
    · cases h
    next hne =>
    split at h
    · cases h
    next hversion =>
    split at h
    · split at h <;> cases h
    obtain ⟨⟨target', head'⟩, hrewrite, ⟨⟩⟩ := map_eq_ok.1 h
    obtain ⟨hline, hmethod, huri, -⟩ := eq_of_splitChar_eq_three hpieces
    have hspace : String.singleton ' ' = " " := by decide
    rw [hspace] at hline
    refine ⟨method, uri, version, hline, ?_, hmethod, huri, ?_, hrewrite⟩
    · rintro rfl
      simp at hne
    · exact or_iff_not_and_not.2 hversion
  · cases h

theorem originPath_eq (r : ForwardRequest) : originPath r.pathQuery.toList = r.path := by
  unfold ForwardRequest.path
  cases hchars : r.pathQuery.toList with
  | nil =>
    have hempty : r.pathQuery = "" := String.toList_inj.1 hchars
    simp [originPath, hempty]
  | cons c cs =>
    have hback : String.ofList (c :: cs) = r.pathQuery := by rw [← hchars, String.ofList_toList]
    by_cases hc : c = '/'
    · subst hc
      simpa [originPath] using hback
    have hother : originPath (c :: cs) = "/" ++ String.ofList (c :: cs) := by
      unfold originPath
      split
      · exact absurd ‹_› (by simp)
      next heq => exact absurd (List.cons.inj heq).1 hc
      · rfl
    simp [hother, hback, hc]

theorem stripScheme_eq_some {scheme target rest : String}
    (h : stripScheme scheme target = some rest) :
    ∃ own, target = own ++ rest ∧ Text.eqIgnoreAsciiCase own scheme = true := by
  unfold stripScheme at h
  dsimp only at h
  split at h <;> cases h
  next hcase =>
    refine ⟨_, ?_, hcase⟩
    apply String.toList_inj.1
    simp

/-- The URI has a scheme, an authority and a path. -/
theorem rewriteForward_eq_ok {method uri version : String}
    (h : rewriteForward method uri version block = .ok (target, head)) :
    ∃ scheme authority pathQuery headers, uri = scheme ++ authority ++ pathQuery ∧
      Text.eqIgnoreAsciiCase scheme "http://" = true ∧
      ('/' ∉ authority.toList ∧ '?' ∉ authority.toList) ∧
      (∀ c ∈ pathQuery.toList.head?, c = '/' ∨ c = '?') ∧
      splitHeaderLines block = .ok headers ∧
      head = originHead method (originPath pathQuery.toList) version authority headers := by
  unfold rewriteForward at h
  split at h
  · split at h <;> cases h
  next after hscheme =>
  dsimp only at h
  split at h
  · cases h
  split at h
  · cases h
  obtain ⟨headers, hheaders, h⟩ := bind_eq_ok.1 h
  cases h
  obtain ⟨scheme, rfl, hhttp⟩ := stripScheme_eq_some hscheme
  refine ⟨scheme, String.ofList (after.toList.takeWhile fun c => !(c == '/' || c == '?')),
    String.ofList (after.toList.dropWhile fun c => !(c == '/' || c == '?')), headers, ?_, hhttp,
    ?_, ?_, hheaders, by rw [String.toList_ofList]⟩
  · apply String.toList_inj.1
    simp
  · rw [String.toList_ofList]
    constructor <;>
      (intro hmem
       have hstays := List.mem_takeWhile_imp hmem
       simp at hstays)
  intro c hc
  have hstop := List.head?_dropWhile_not (fun c : Char => !(c == '/' || c == '?')) after.toList
  rw [String.toList_ofList] at hc
  rw [Option.mem_def.1 hc] at hstop
  by_cases hslash : c = '/'
  · exact .inl hslash
  · exact .inr (by simpa [hslash] using hstop)

/-! ## What is sent -/

theorem toAsciiLowercase_of_mem_strippedHeaders :
    ∀ name ∈ strippedHeaders, Text.toAsciiLowercase name = name := by
  decide +kernel

theorem mem_connectionOptions_iff {name : String} :
    Text.toAsciiLowercase name ∈ connectionOptions headers ↔ Lists headers name := by
  simp only [connectionOptions, Lists, List.mem_flatMap]
  constructor
  · rintro ⟨g, hg, hoption⟩
    split at hoption
    next hconnection =>
      obtain ⟨option, hoption, hlower⟩ := List.mem_map.1 hoption
      exact ⟨g, hg, by simpa using hconnection, option, hoption,
        Text.eqIgnoreAsciiCase_iff.2 hlower⟩
    · cases hoption
  · rintro ⟨g, hg, hconnection, option, hoption, hsame⟩
    refine ⟨g, hg, ?_⟩
    rw [if_pos (by simpa using hconnection)]
    exact List.mem_map.2 ⟨option, hoption, Text.eqIgnoreAsciiCase_iff.1 hsame⟩

/-- What the strip lists drop. -/
theorem isStripped_iff :
    isStripped (connectionOptions headers) h = true ↔
      (∃ name ∈ strippedHeaders, Text.eqIgnoreAsciiCase name h.name = true) ∨
        Lists headers h.name := by
  unfold isStripped
  simp only [Bool.or_eq_true, List.contains_iff_mem, mem_connectionOptions_iff]
  refine or_congr_left ?_
  constructor
  · intro hmem
    have hlower := toAsciiLowercase_of_mem_strippedHeaders _ hmem
    exact ⟨_, hmem, Text.eqIgnoreAsciiCase_iff.2 hlower⟩
  · rintro ⟨name, hmem, hname⟩
    rw [Text.eqIgnoreAsciiCase_iff, toAsciiLowercase_of_mem_strippedHeaders name hmem] at hname
    exact hname ▸ hmem

/-- The head that is sent has the lines `sentLines`. -/
theorem originHead_eq (r : ForwardRequest) :
    originHead r.method r.path r.version r.authority (r.fields.map Field.header) =
      terminated (r.sentLines ++ [[]]) := by
  have hkept : (r.fields.map Field.header).filter
      (fun h => !isStripped (connectionOptions (r.fields.map Field.header)) h) =
        (r.fields.filter fun f => ¬ r.Dropped f).map Field.header := by
    rw [List.filter_map]
    congr 1
    apply List.filter_congr
    intro f _
    have hiff : isStripped (connectionOptions (r.fields.map Field.header)) f.header = true ↔
        r.Dropped f := isStripped_iff
    by_cases hdropped : r.Dropped f
    · simp [hdropped, hiff.2 hdropped]
    · have hkeep : isStripped (connectionOptions (r.fields.map Field.header)) f.header = false :=
        Bool.eq_false_iff.2 fun h => hdropped (hiff.1 h)
      simp [hdropped, hkeep]
  have hhost : utf8 "\r\nHost: " = 13 :: 10 :: utf8 "Host: " := by decide
  have hclose : utf8 "Connection: close\r\n\r\n" =
      utf8 "Connection: close" ++ [13, 10, 13, 10] := by decide
  have hcrlf : utf8 "\r\n" = [13, 10] := by decide
  have hfields (fields : List Field) :
      (fields.map Field.header).flatMap (fun h => utf8 h.name ++ [58] ++ h.value ++ [13, 10]) =
        terminated (fields.map Field.sent) := by
    simp [terminated, List.flatMap_map, Field.header, Field.sent]
  unfold originHead ForwardRequest.sentLines
  rw [hkept, hfields, hclose]
  simp [hhost, hcrlf]

/-- A line that stays one line: it is not blank, and holds no CR, LF or NUL. -/
def CleanLine (line : List UInt8) : Prop :=
  line ≠ [] ∧ ∀ b ∈ line, b ≠ 13 ∧ b ≠ 10 ∧ b ≠ 0

theorem ne_of_not_control {b : UInt8} (h : isAsciiControl b = false) : b ≠ 13 ∧ b ≠ 10 ∧ b ≠ 0 := by
  refine ⟨?_, ?_, ?_⟩ <;>
    (rintro rfl
     exact absurd h (by decide))

theorem not_control_of_all (h : bytes.all (fun b => !isAsciiControl b) = true) :
    ∀ b ∈ bytes, isAsciiControl b = false := by
  simpa using h

variable {r : ForwardRequest}

theorem not_control_of_mem_path (hr : r.WellFormed) :
    ∀ b ∈ utf8 (r.method ++ " " ++ r.path ++ " " ++ r.version), isAsciiControl b = false := by
  have hline := hr.line_plain
  simp only [ForwardRequest.requestLine, ForwardRequest.uri, utf8_append, List.mem_append] at hline
  have hslash : ∀ b ∈ utf8 "/", isAsciiControl b = false := not_control_of_all (by decide)
  have hpath : ∀ b ∈ utf8 r.path, isAsciiControl b = false := by
    intro b hb
    unfold ForwardRequest.path at hb
    split at hb
    · exact hline b (.inl (.inl (.inr (.inr hb))))
    rw [utf8_append, List.mem_append] at hb
    rcases hb with hb | hb
    · exact hslash b hb
    · exact hline b (.inl (.inl (.inr (.inr hb))))
  intro b hb
  simp only [utf8_append, List.mem_append] at hb
  rcases hb with (((hb | hb) | hb) | hb) | hb
  · exact hline b (.inl (.inl (.inl (.inl hb))))
  · exact hline b (.inl (.inl (.inl (.inr hb))))
  · exact hpath b hb
  · exact hline b (.inl (.inr hb))
  · exact hline b (.inr hb)

theorem not_control_of_mem_authority (hr : r.WellFormed) :
    ∀ b ∈ utf8 r.authority, isAsciiControl b = false := by
  intro b hb
  apply hr.line_plain b
  simp only [ForwardRequest.requestLine, ForwardRequest.uri, utf8_append, List.mem_append]
  exact .inl (.inl (.inr (.inl (.inr hb))))

/-- No line that is sent ends early. -/
theorem cleanLine_of_mem_sentLines (hr : r.WellFormed) : ∀ line ∈ r.sentLines, CleanLine line := by
  have hplain (s : String) (hs : ∀ b ∈ utf8 s, isAsciiControl b = false) (hne : utf8 s ≠ []) :
      CleanLine (utf8 s) :=
    ⟨hne, fun b hb => ne_of_not_control (hs b hb)⟩
  have hspace : utf8 " " = [32] := by decide
  have hname : utf8 "Host: " = [72, 111, 115, 116, 58, 32] := by decide
  intro line hline
  simp only [ForwardRequest.sentLines, List.mem_cons, List.mem_append, List.mem_map] at hline
  rcases hline with rfl | rfl | ⟨f, hf, rfl⟩ | hclose
  · exact hplain _ (not_control_of_mem_path hr) (by simp [hspace])
  · refine hplain _ ?_ (by simp [hname])
    intro b hb
    have hhost : ∀ b ∈ utf8 "Host: ", isAsciiControl b = false := not_control_of_all (by decide)
    rw [utf8_append, List.mem_append] at hb
    rcases hb with hb | hb
    · exact hhost b hb
    · exact not_control_of_mem_authority hr b hb
  · have hwell := hr.fields_wellFormed f (List.mem_of_mem_filter hf)
    refine ⟨by simp [Field.sent], ?_⟩
    intro b hb
    rcases List.mem_append.1 hb with hb | hb
    · exact ne_of_not_control (hwell.name_plain b hb).1
    · rcases List.mem_cons.1 hb with rfl | hb
      · decide
      · exact hwell.value_plain b hb
  · rcases hclose with rfl | hnil
    · exact hplain _ (not_control_of_all (by decide)) (by decide)
    · cases hnil

/-- What is forwarded was printed from a well-formed request. -/
theorem exists_forwardRequest (h : readHttpRequest.run bytes = .ok (.forward target head, rest)) :
    ∃ (r : ForwardRequest) (block : List UInt8), r.WellFormed ∧
      bytes = utf8 r.requestLine ++ 13 :: 10 :: (block ++ [13, 10]) ++ rest ∧
      (block = [] ∨ [13, 10] <:+ block) ∧ crlfLines block = r.fields.map Field.received ∧
      splitHeaderLines block = .ok (r.fields.map Field.header) ∧
      head = terminated (r.sentLines ++ [[]]) := by
  obtain ⟨line, block, rfl, hblock, -, hcontrol, hparse⟩ := readHttpRequest_eq_forward h
  obtain ⟨method, uri, version, rfl, hmethod, hmethod', huri, hversion, hrewrite⟩ :=
    parseRequest_eq_forward hparse
  obtain ⟨scheme, authority, pathQuery, headers, rfl, hscheme, hauthority, hstart, hheaders,
    hhead⟩ := rewriteForward_eq_ok hrewrite
  have hlines := (terminated_crlfLines hblock).2
  obtain ⟨fields, hfields, hreceived, rfl⟩ := mapM_headerLine_eq_ok hlines hheaders
  let r : ForwardRequest := ⟨method, scheme, authority, pathQuery, version, fields⟩
  have hr : r.WellFormed :=
    ⟨hmethod, hmethod', huri, hversion, hcontrol, hscheme, hauthority, hstart, hfields⟩
  refine ⟨r, block, hr, rfl, hblock, hreceived.symm, hheaders, ?_⟩
  rw [hhead, ← originHead_eq r]
  exact congrArg (fun path => originHead method path version authority _) (originPath_eq r)

theorem crlfLines_sentLines (hr : r.WellFormed) :
    crlfLines (terminated (r.sentLines ++ [[]])) = r.sentLines ++ [[]] := by
  apply crlfLines_terminated
  intro line hline hcr
  rcases List.mem_append.1 hline with hline | hline
  · exact ((cleanLine_of_mem_sentLines hr line hline).2 13 hcr).1 rfl
  · obtain rfl := List.mem_singleton.1 hline
    cases hcr

/-- **What the origin is sent.** A stream accepted as a plain-HTTP forward starts with a well-formed
request, the rest is left unread, and the head sent is the lines `sentLines` of that request and a
blank line. None of these lines is blank or holds a CR, LF or NUL, so the head is taken apart as
these lines. -/
theorem forwardedHead_exact {bytes rest head : List UInt8} {target : Target}
    (h : readHttpRequest.run bytes = .ok (.forward target head, rest)) :
    ∃ r : ForwardRequest, r.WellFormed ∧ bytes = r.received ++ rest ∧
      head = terminated (r.sentLines ++ [[]]) ∧ (∀ line ∈ r.sentLines, CleanLine line) ∧
      crlfLines head = r.sentLines ++ [[]] := by
  obtain ⟨r, block, hr, rfl, hblock, hlines, -, rfl⟩ := exists_forwardRequest h
  have hprint := (terminated_crlfLines hblock).1
  rw [hlines] at hprint
  refine ⟨r, hr, ?_, rfl, cleanLine_of_mem_sentLines hr, crlfLines_sentLines hr⟩
  simp [ForwardRequest.received, hprint]

/-- A request with a header that is dropped, one with a gap before the colon, and a body. -/
theorem forwardedHead_exact_instance :
    ∃ r : ForwardRequest, r.WellFormed ∧
      utf8 "GET http://h/p HTTP/1.1\r\nTE: x\r\nA : b\r\n\r\nbody" = r.received ++ utf8 "body" ∧
      utf8 "GET /p HTTP/1.1\r\nHost: h\r\nA: b\r\nConnection: close\r\n\r\n" =
        terminated (r.sentLines ++ [[]]) ∧
      (∀ line ∈ r.sentLines, CleanLine line) ∧
      crlfLines (utf8 "GET /p HTTP/1.1\r\nHost: h\r\nA: b\r\nConnection: close\r\n\r\n") =
        r.sentLines ++ [[]] := by
  have hrun : readHttpRequest.run
      (utf8 "GET http://h/p HTTP/1.1\r\nTE: x\r\nA : b\r\n\r\nbody") =
        .ok (.forward (.domain "h" 80)
          (utf8 "GET /p HTTP/1.1\r\nHost: h\r\nA: b\r\nConnection: close\r\n\r\n"),
          utf8 "body") := by decide +kernel
  exact forwardedHead_exact hrun

/-! ## The framing of the body -/

/-- The header fields of a head: those of its lines after the first that are headers. -/
def fieldsOf (head : List UInt8) : List HeaderLine :=
  ((crlfLines head).drop 1).filterMap fun line => (headerLine line).toOption

def Framing (h : HeaderLine) : Prop :=
  Text.eqIgnoreAsciiCase h.name "content-length" = true ∨
    Text.eqIgnoreAsciiCase h.name "transfer-encoding" = true

instance (h : HeaderLine) : Decidable (Framing h) :=
  inferInstanceAs (Decidable (Text.eqIgnoreAsciiCase h.name "content-length" = true ∨
    Text.eqIgnoreAsciiCase h.name "transfer-encoding" = true))

/-- A printed field is read back. -/
theorem headerLine_print {name : String} {value : List UInt8}
    (hname : ∀ b ∈ utf8 name, isAsciiControl b = false ∧ b ≠ 58)
    (hend : Text.trimAsciiEnd name = name) (hstart : ∀ b ∈ (utf8 name).head?, b ≠ 32)
    (hvalue : ∀ b ∈ value, b ≠ 13 ∧ b ≠ 10 ∧ b ≠ 0) :
    headerLine (utf8 name ++ 58 :: value) = .ok ⟨name, value⟩ := by
  have hbytes : ∀ b ∈ utf8 name, (fun c : UInt8 => c != 58) b = true := by
    intro b hb
    simpa using (hname b hb).2
  have htake : (utf8 name ++ 58 :: value).takeWhile (· != 58) = utf8 name := by
    rw [List.takeWhile_append_of_pos hbytes]
    simp
  have hdrop : (utf8 name ++ 58 :: value).dropWhile (· != 58) = 58 :: value := by
    rw [List.dropWhile_append_of_pos hbytes]
    simp
  have hfold : (utf8 name ++ 58 :: value).head?.any (fun b => b = 32 || b = 9) = false := by
    cases hchars : utf8 name with
    | nil => rfl
    | cons b bs =>
      have hspace : b ≠ 32 := hstart b (by simp [hchars])
      have htab : b ≠ 9 := by
        rintro rfl
        exact absurd (hname 9 (by simp [hchars])).1 (by decide)
      simp [hspace, htab]
  have hcontrol : (utf8 name).any isAsciiControl = false := by
    apply List.any_eq_false.2
    intro b hb
    simp [(hname b hb).1]
  have hplain : value.any (fun b => b = 13 || b = 10 || b = 0) = false := by
    apply List.any_eq_false.2
    intro b hb
    obtain ⟨hcr, hlf, hnul⟩ := hvalue b hb
    simp [hcr, hlf, hnul]
  unfold headerLine
  rw [hfold, hdrop]
  simp only [htake, ofUtf8_utf8, hend, hcontrol, hplain]
  simp

theorem fieldsOf_received {line : String} (hline : ∀ b ∈ utf8 line, isAsciiControl b = false)
    (hblock : block = [] ∨ [13, 10] <:+ block) (hheaders : splitHeaderLines block = .ok headers) :
    fieldsOf (utf8 line ++ 13 :: 10 :: (block ++ [13, 10])) = headers := by
  have hcr : 13 ∉ utf8 line := fun hmem => (ne_of_not_control (hline 13 hmem)).1 rfl
  have hblank : headerLine [] = .error .malformedHeader := rfl
  have hread : (crlfLines block).filterMap (fun line => (headerLine line).toOption) = headers :=
    filterMap_toOption_of_mapM_eq_ok hheaders
  rw [fieldsOf, crlfLines_eq_cons (splitCrlf_append hcr _), crlfLines_append_crlf hblock,
    List.drop_one, List.tail_cons, List.filterMap_append, hread]
  simp [hblank, Except.toOption]

theorem headerLine_sent {f : Field} (hf : f.WellFormed) : headerLine f.sent = .ok f.header := by
  refine headerLine_print hf.name_plain hf.name_end ?_ hf.value_plain
  intro b hb
  refine (hf.not_folded b ?_).1
  unfold Field.received
  cases hchars : utf8 f.name with
  | nil =>
    rw [hchars] at hb
    cases hb
  | cons c cs =>
    rw [hchars] at hb
    exact hb

/-- The fields of the head that is sent. -/
theorem fieldsOf_sent (hr : r.WellFormed) :
    fieldsOf (terminated (r.sentLines ++ [[]])) =
      ⟨"Host", 32 :: utf8 r.authority⟩ ::
        ((r.fields.filter fun f => ¬ r.Dropped f).map Field.header ++
          [⟨"Connection", utf8 " close"⟩]) := by
  have hhost : headerLine (utf8 ("Host: " ++ r.authority)) =
      .ok ⟨"Host", 32 :: utf8 r.authority⟩ := by
    have hprint : utf8 ("Host: " ++ r.authority) = utf8 "Host" ++ 58 :: 32 :: utf8 r.authority := by
      have hname : utf8 "Host: " = utf8 "Host" ++ [58, 32] := by decide
      rw [utf8_append, hname]
      simp
    have hbytes : utf8 "Host" = [72, 111, 115, 116] := by decide
    rw [hprint]
    refine headerLine_print (by simp [hbytes, isAsciiControl]) (by decide) (by simp [hbytes]) ?_
    intro b hb
    rcases List.mem_cons.1 hb with rfl | hb
    · decide
    · exact ne_of_not_control (not_control_of_mem_authority hr b hb)
  have hclose : headerLine (utf8 "Connection: close") = .ok ⟨"Connection", utf8 " close"⟩ := by
    decide
  have hkept : ∀ fields : List Field, (∀ f ∈ fields, f.WellFormed) →
      (fields.map Field.sent).filterMap (fun line => (headerLine line).toOption) =
        fields.map Field.header := by
    intro fields hfields
    rw [List.filterMap_map, ← List.filterMap_eq_map]
    apply List.filterMap_congr
    intro f hf
    simp [headerLine_sent (hfields f hf), Except.toOption]
  have hwell : ∀ f ∈ r.fields.filter (fun f => ¬ r.Dropped f), f.WellFormed :=
    fun f hf => hr.fields_wellFormed f (List.mem_of_mem_filter hf)
  have hblank : headerLine [] = .error .malformedHeader := rfl
  rw [fieldsOf, crlfLines_sentLines hr, ForwardRequest.sentLines]
  simp only [List.cons_append, List.drop_one, List.tail_cons, List.filterMap_cons, hhost,
    List.filterMap_append, hkept _ hwell, hclose, hblank]
  simp [Except.toOption]

theorem not_stripped_of_framing (hframing : Framing h) :
    ¬ ∃ name ∈ strippedHeaders, Text.eqIgnoreAsciiCase name h.name = true := by
  rintro ⟨name, hmem, hname⟩
  rw [Text.eqIgnoreAsciiCase_iff, toAsciiLowercase_of_mem_strippedHeaders name hmem] at hname
  have hlength : Text.toAsciiLowercase "content-length" = "content-length" := by decide +kernel
  have hencoding : Text.toAsciiLowercase "transfer-encoding" = "transfer-encoding" := by
    decide +kernel
  unfold Framing at hframing
  rw [Text.eqIgnoreAsciiCase_iff, Text.eqIgnoreAsciiCase_iff, ← hname, hlength,
    hencoding] at hframing
  rcases hframing with rfl | rfl <;> exact absurd hmem (by decide)

theorem name_ne_of_framing (hframing : Framing h) (name : String)
    (hname : Text.eqIgnoreAsciiCase name "content-length" = false ∧
      Text.eqIgnoreAsciiCase name "transfer-encoding" = false) : h.name ≠ name := by
  rintro rfl
  rcases hframing with hframing | hframing
  · exact absurd hframing (by simp [hname.1])
  · exact absurd hframing (by simp [hname.2])

/-- **The framing travels with the body unless the request lists it as a connection option**: every
`Content-Length` and `Transfer-Encoding` field of an accepted forward is sent exactly when none of
them is listed in a `Connection` or `Proxy-Connection` field. -/
theorem framing_sent_iff {bytes rest head : List UInt8} {target : Target}
    (h : readHttpRequest.run bytes = .ok (.forward target head, rest)) :
    ∃ received, bytes = received ++ rest ∧
      ((∀ f ∈ fieldsOf received, Framing f → f ∈ fieldsOf head) ↔
        ∀ f ∈ fieldsOf received, Framing f → ¬ Lists (fieldsOf received) f.name) := by
  obtain ⟨r, block, hr, rfl, hblock, -, hheaders, rfl⟩ := exists_forwardRequest h
  refine ⟨_, rfl, ?_⟩
  rw [fieldsOf_received hr.line_plain hblock hheaders, fieldsOf_sent hr]
  refine forall_congr' fun f => imp_congr_right fun hf => imp_congr_right fun hframing => ?_
  have hnot := not_stripped_of_framing hframing
  have hhost : f ≠ ⟨"Host", 32 :: utf8 r.authority⟩ := fun heq =>
    name_ne_of_framing hframing "Host" (by decide) (congrArg HeaderLine.name heq)
  have hclose : f ≠ ⟨"Connection", utf8 " close"⟩ := fun heq =>
    name_ne_of_framing hframing "Connection" (by decide) (congrArg HeaderLine.name heq)
  simp only [List.mem_cons, List.mem_append, hhost, hclose, List.not_mem_nil, or_false, false_or]
  constructor
  · intro hmem hlists
    obtain ⟨g, hg, rfl⟩ := List.mem_map.1 hmem
    have hkept := (List.mem_filter.1 hg).2
    simp only [decide_eq_true_eq] at hkept
    exact hkept (.inr hlists)
  · intro hlists
    obtain ⟨g, hg, rfl⟩ := List.mem_map.1 hf
    refine List.mem_map.2 ⟨g, List.mem_filter.2 ⟨hg, ?_⟩, rfl⟩
    exact decide_eq_true (p := ¬ r.Dropped g) (not_or.2 ⟨hnot, hlists⟩)

/-- **A request can take the framing off its own body.** `Connection: content-length`
strips the length of the body, which is relayed without it. -/
theorem framing_not_sent :
    let received :=
      utf8 "POST http://h/ HTTP/1.1\r\nContent-Length: 5\r\nConnection: content-length\r\n\r\n"
    let head := utf8 "POST / HTTP/1.1\r\nHost: h\r\nConnection: close\r\n\r\n"
    readHttpRequest.run (received ++ utf8 "hello") =
        .ok (.forward (.domain "h" 80) head, utf8 "hello") ∧
      (⟨"Content-Length", utf8 " 5"⟩ : HeaderLine) ∈ fieldsOf received ∧
      Framing ⟨"Content-Length", utf8 " 5"⟩ ∧
      (⟨"Content-Length", utf8 " 5"⟩ : HeaderLine) ∉ fieldsOf head := by
  decide +kernel

/-- A request with a length and another option. -/
theorem framing_sent_iff_instance :
    ∃ received, utf8 "PUT http://h/ HTTP/1.1\r\nContent-Length: 5\r\nConnection: x\r\n\r\nhello" =
        received ++ utf8 "hello" ∧
      ((∀ f ∈ fieldsOf received, Framing f → f ∈ fieldsOf
          (utf8 "PUT / HTTP/1.1\r\nHost: h\r\nContent-Length: 5\r\nConnection: close\r\n\r\n")) ↔
        ∀ f ∈ fieldsOf received, Framing f → ¬ Lists (fieldsOf received) f.name) := by
  have hrun : readHttpRequest.run
      (utf8 "PUT http://h/ HTTP/1.1\r\nContent-Length: 5\r\nConnection: x\r\n\r\nhello") =
        .ok (.forward (.domain "h" 80)
          (utf8 "PUT / HTTP/1.1\r\nHost: h\r\nContent-Length: 5\r\nConnection: close\r\n\r\n"),
          utf8 "hello") := by decide +kernel
  exact framing_sent_iff hrun

end Flextunnel.Analysis
