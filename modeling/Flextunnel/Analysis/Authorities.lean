import Flextunnel.Lib.Splitting
import Flextunnel.Model.Frontends

/-!
# Authorities

An authority is a host and a port: the host bare or in brackets (`HostText`), the port in decimal
digits (`PortText`). `splitAuthority` also takes `host:+80` for an authority, by the sign a number
may have in the standard library.
-/

set_option autoImplicit false

namespace Flextunnel.Analysis

open Lib Lib.Text Model

/-! ## The text of an authority -/

def HostText (text host : String) : Prop :=
  host ≠ "" ∧ (text = host ∧ ':' ∉ host.toList ∧ host.toList.head? ≠ some '[' ∨
    text = "[" ++ host ++ "]" ∧ ']' ∉ host.toList)

/-- A port as an authority has it: a number from 1 to 65535 in decimal digits. -/
def PortText (text : String) (port : UInt16) : Prop :=
  IsDecimal text.toList port.toNat ∧ port ≠ 0

/-- An authority with this host and port; without a port it has the default one. -/
def AuthorityOf (authority : String) (defaultPort : Option UInt16) (host : String)
    (port : UInt16) : Prop :=
  ∃ text, HostText text host ∧
    ((∃ digits, authority = text ++ ":" ++ digits ∧ PortText digits port) ∨
      authority = text ∧ defaultPort = some port)

def SignedPort (authority : String) : Prop :=
  ∃ text host digits port, HostText text host ∧ authority = text ++ ":+" ++ digits ∧
    PortText digits port

/-! ## Splitting -/

/-- The parts of an authority, with or without a port. -/
def Splits (authority host : String) : Option String → Prop
  | none => HostText authority host
  | some p => ∃ text, HostText text host ∧ authority = text ++ ":" ++ p ∧
      (text = host → ':' ∉ p.toList)

theorem stripPrefix_bracket_eq_none_iff {s : String} :
    stripPrefix "[" s = none ↔ s.toList.head? ≠ some '[' := by
  rw [← not_iff_not, ← ne_eq, Option.ne_none_iff_exists', not_ne_iff]
  constructor
  · rintro ⟨rest, h⟩
    rw [stripPrefix_eq_some_iff.1 h, String.toList_append]
    rfl
  intro h
  obtain ⟨rest, hs⟩ := List.head?_eq_some_iff.1 h
  refine ⟨String.ofList rest, stripPrefix_eq_some_iff.2 (String.toList_inj.1 ?_)⟩
  simp [hs]

variable {host authority : String} {port : Option String} {defaultPort : Option UInt16}

/-- A host in brackets ends at its bracket. -/
theorem splitHostPort_bracket_iff {rest : String} (hne : host ≠ "") :
    splitHostPort ("[" ++ rest) = some (host, port) ↔ Splits ("[" ++ rest) host port := by
  have hstrip : stripPrefix "[" ("[" ++ rest) = some rest := stripPrefix_eq_some_iff.2 rfl
  have hhead : ("[" ++ rest).toList.head? = some '[' := by
    rw [String.toList_append]
    rfl
  -- a bare host does not start with a bracket
  have hbracketed {text after : String} (htext : HostText text host)
      (hrest : "[" ++ rest = text ++ after) :
      text = "[" ++ host ++ "]" ∧ splitOnce ']' rest = some (host, after) := by
    obtain ⟨-, ⟨rfl, -, hbare⟩ | ⟨rfl, hmem⟩⟩ := htext
    · rw [hrest, String.toList_append] at hhead
      cases htext : text.toList with
      | nil => exact absurd (String.toList_inj.1 htext) hne
      | cons c cs =>
        rw [htext] at hhead hbare
        exact absurd hhead hbare
    · refine ⟨rfl, splitOnce_eq_some_iff.2 ⟨?_, hmem⟩⟩
      rw [String.append_assoc, String.append_assoc] at hrest
      rw [(String.append_right_inj _).1 hrest, String.toList_append, String.toList_append]
      rfl
  unfold splitHostPort
  rw [hstrip]
  simp only [Option.bind_eq_bind, Option.bind_eq_some_iff, Prod.exists]
  constructor
  · rintro ⟨addr, after, hsplit, h⟩
    obtain ⟨hrest, hmem⟩ := splitOnce_eq_some_iff.1 hsplit
    have hauthority : "[" ++ rest = "[" ++ addr ++ "]" ++ after := by
      apply String.toList_inj.1
      simp [hrest]
    split at h
    next hafter =>
      cases h
      rw [hafter, String.append_empty] at hauthority
      exact ⟨hne, .inr ⟨hauthority, hmem⟩⟩
    obtain ⟨p, hp, ⟨⟩⟩ := Option.map_eq_some_iff.1 h
    rw [stripPrefix_eq_some_iff.1 hp, ← String.append_assoc] at hauthority
    refine ⟨_, ⟨hne, .inr ⟨rfl, hmem⟩⟩, hauthority, fun heq => ?_⟩
    have hlen := congrArg (fun s => s.toList.length) heq
    simp only [String.toList_append, List.length_append] at hlen
    have hopen : "[".toList.length = 1 := rfl
    omega
  · intro h
    cases port with
    | none =>
      obtain ⟨-, hsplit⟩ := hbracketed h (String.append_empty).symm
      exact ⟨host, "", hsplit, if_pos rfl⟩
    | some p =>
      obtain ⟨text, htext, hauthority, -⟩ := h
      rw [String.append_assoc] at hauthority
      obtain ⟨-, hsplit⟩ := hbracketed htext hauthority
      have hstripPort : stripPrefix ":" (":" ++ p) = some p := stripPrefix_eq_some_iff.2 rfl
      refine ⟨host, ":" ++ p, hsplit, ?_⟩
      rw [if_neg, hstripPort, Option.map_some]
      intro hnil
      have hlen := congrArg (fun s => s.toList.length) hnil
      simp at hlen

/-- A bare host ends at the only colon. -/
theorem splitHostPort_bare_iff (hne : host ≠ "") (hbare : authority.toList.head? ≠ some '[') :
    splitHostPort authority = some (host, port) ↔ Splits authority host port := by
  have hhostList : host.toList ≠ [] := fun h => hne (String.toList_inj.1 h)
  have htext {text after : String} (h : HostText text host)
      (hauthority : authority = text ++ after) : text = host ∧ ':' ∉ host.toList := by
    obtain ⟨-, ⟨rfl, hcolon, -⟩ | ⟨rfl, -⟩⟩ := h
    · exact ⟨rfl, hcolon⟩
    · refine absurd ?_ hbare
      rw [hauthority, String.append_assoc, String.append_assoc, String.toList_append]
      rfl
  unfold splitHostPort
  rw [stripPrefix_bracket_eq_none_iff.2 hbare]
  dsimp only
  cases hsplit : rsplitOnce ':' authority with
  | none =>
    have hcolon := rsplitOnce_eq_none_iff.1 hsplit
    constructor
    · intro h
      obtain ⟨rfl, rfl⟩ := Prod.mk.inj (Option.some.inj h)
      exact ⟨hne, .inl ⟨rfl, hcolon, hbare⟩⟩
    intro h
    cases port with
    | none =>
      obtain ⟨rfl, -⟩ := htext h (String.append_empty).symm
      rfl
    | some p =>
      obtain ⟨text, -, hauthority, -⟩ := h
      refine absurd ?_ hcolon
      rw [hauthority]
      simp
  | some r =>
    obtain ⟨before, after⟩ := r
    obtain ⟨hauthority, hafter⟩ := rsplitOnce_eq_some_iff.1 hsplit
    dsimp only
    constructor
    · intro h
      split at h
      · cases h
      next hcolon =>
        obtain ⟨rfl, rfl⟩ := Prod.mk.inj (Option.some.inj h)
        have hcolon : ':' ∉ before.toList := by
          simpa [containsChar] using hcolon
        refine ⟨before, ⟨hne, .inl ⟨rfl, hcolon, ?_⟩⟩, String.toList_inj.1 (by simp [hauthority]),
          fun _ => hafter⟩
        rwa [hauthority, List.head?_append_of_ne_nil _ hhostList] at hbare
    intro h
    cases port with
    | none =>
      obtain ⟨rfl, hcolon⟩ := htext h (String.append_empty).symm
      refine absurd ?_ hcolon
      rw [hauthority]
      simp
    | some p =>
      obtain ⟨text, hhost, heq, hp⟩ := h
      rw [String.append_assoc] at heq
      obtain ⟨rfl, hcolon⟩ := htext hhost heq
      have hown : rsplitOnce ':' authority = some (text, p) := by
        refine rsplitOnce_eq_some_iff.2 ⟨?_, hp rfl⟩
        rw [heq, String.toList_append, String.toList_append]
        rfl
      obtain ⟨rfl, rfl⟩ := Prod.mk.inj (Option.some.inj (hsplit.symm.trans hown))
      rw [if_neg (by simpa [containsChar] using hcolon)]

theorem splitHostPort_eq_some_iff (hne : host ≠ "") :
    splitHostPort authority = some (host, port) ↔ Splits authority host port := by
  cases hstrip : stripPrefix "[" authority with
  | none => exact splitHostPort_bare_iff hne (stripPrefix_bracket_eq_none_iff.1 hstrip)
  | some rest =>
    rw [stripPrefix_eq_some_iff.1 hstrip]
    exact splitHostPort_bracket_iff hne

def portOf (p : String) : Option UInt16 :=
  match parseUnsigned 65536 p with
  | none | some 0 => none
  | some n => some (UInt16.ofNat n)

/-- A port is a number in digits, or one with a plus sign. -/
theorem portOf_eq_some_iff {p : String} {port : UInt16} :
    portOf p = some port ↔
      PortText p port ∨ ∃ digits, p = "+" ++ digits ∧ PortText digits port := by
  have hread : portOf p = some port ↔ parseUnsigned 65536 p = some port.toNat ∧ port ≠ 0 := by
    have hport : port ≠ 0 ↔ port.toNat ≠ 0 := by
      rw [ne_eq, ← UInt16.toNat_inj]
      rfl
    rw [hport]
    unfold portOf
    split
    next hnone => simp [hnone]
    next hzero => simp [hzero, eq_comm]
    next n hne hn =>
      obtain ⟨-, -, -, hlt⟩ := parseUnsigned_eq_some_iff.1 hn
      simp only [hn, Option.some.injEq, ← UInt16.toNat_inj, UInt16.toNat_ofNat_of_lt' hlt]
      constructor
      · rintro rfl
        exact ⟨rfl, fun h => hne h⟩
      · rintro ⟨rfl, -⟩
        rfl
  rw [hread, parseUnsigned_eq_some_iff]
  constructor
  · rintro ⟨⟨digits, rfl | hp, hdigits, -⟩, hne⟩
    · exact .inl ⟨hdigits, hne⟩
    · refine .inr ⟨String.ofList digits, String.toList_inj.1 (by simp [hp]), ?_, hne⟩
      rwa [String.toList_ofList]
  · rintro (⟨hdigits, hne⟩ | ⟨digits, rfl, hdigits, hne⟩)
    · exact ⟨⟨p.toList, .inl rfl, hdigits, port.toNat_lt⟩, hne⟩
    · exact ⟨⟨digits.toList, .inr (by simp), hdigits, port.toNat_lt⟩, hne⟩

theorem splitAuthority_eq :
    splitAuthority authority defaultPort = (splitHostPort authority).bind fun r =>
      if r.1 = "" then none else ((r.2.elim defaultPort portOf).map fun port => (r.1, port)) := by
  unfold splitAuthority
  refine congrArg (Option.bind _) (funext fun r => ?_)
  obtain ⟨host, portStr⟩ := r
  dsimp only
  split
  · rfl
  cases portStr with
  | none => rfl
  | some p =>
    simp only [Option.elim_some, portOf]
    cases parseUnsigned 65536 p with
    | none => rfl
    | some n => cases n <;> rfl

theorem append_sign {text digits : String} :
    text ++ ":+" ++ digits = text ++ ":" ++ ("+" ++ digits) := by
  apply String.toList_inj.1
  simp

/-- What `splitAuthority` accepts: the authorities, and those whose port has a sign. -/
theorem splitAuthority_eq_some_iff {port : UInt16} :
    splitAuthority authority defaultPort = some (host, port) ↔
      AuthorityOf authority defaultPort host port ∨
        ∃ text digits, HostText text host ∧ authority = text ++ ":+" ++ digits ∧
          PortText digits port := by
  have hparts : splitAuthority authority defaultPort = some (host, port) ↔
      host ≠ "" ∧ ∃ p, Splits authority host p ∧ p.elim defaultPort portOf = some port := by
    simp only [splitAuthority_eq, Option.bind_eq_some_iff, Option.ite_none_left_eq_some,
      Option.map_eq_some_iff, Prod.exists, Prod.mk.injEq]
    constructor
    · rintro ⟨host', p, hsplit, hne, port', hport, rfl, rfl⟩
      exact ⟨hne, p, (splitHostPort_eq_some_iff hne).1 hsplit, hport⟩
    · rintro ⟨hne, p, hsplit, hport⟩
      exact ⟨host, p, (splitHostPort_eq_some_iff hne).2 hsplit, hne, port, hport, rfl, rfl⟩
  rw [hparts]
  constructor
  · rintro ⟨-, p, hsplit, hport⟩
    cases p with
    | none => exact .inl ⟨authority, hsplit, .inr ⟨rfl, hport⟩⟩
    | some p =>
      obtain ⟨text, htext, rfl, -⟩ := hsplit
      rcases portOf_eq_some_iff.1 hport with hdigits | ⟨digits, rfl, hdigits⟩
      · exact .inl ⟨text, htext, .inl ⟨p, rfl, hdigits⟩⟩
      · exact .inr ⟨text, digits, htext, append_sign.symm, hdigits⟩
  rintro (⟨text, htext, ⟨digits, rfl, hport⟩ | ⟨rfl, hport⟩⟩ | ⟨text, digits, htext, rfl, hport⟩)
  · exact ⟨htext.1, some digits, ⟨text, htext, rfl, fun _ => hport.1.not_mem (by decide)⟩,
      portOf_eq_some_iff.2 (.inl hport)⟩
  · exact ⟨htext.1, none, htext, hport⟩
  refine ⟨htext.1, some ("+" ++ digits), ⟨text, htext, append_sign, fun _ => ?_⟩,
    portOf_eq_some_iff.2 (.inr ⟨digits, rfl, hport⟩)⟩
  have hcolon : ':' ∉ digits.toList := hport.1.not_mem (by decide)
  simp [hcolon]

theorem not_authorityOf_of_sign {text digits : String} {port port' : UInt16}
    (htext : HostText text host) (hport : PortText digits port) :
    ¬ AuthorityOf (text ++ ":+" ++ digits) defaultPort host port' := by
  have hcolon : ':' ∉ digits.toList := hport.1.not_mem (by decide)
  have hsigned : splitHostPort (text ++ ":+" ++ digits) = some (host, some ("+" ++ digits)) := by
    refine (splitHostPort_eq_some_iff htext.1).2 ⟨text, htext, append_sign, fun _ => ?_⟩
    simp [hcolon]
  -- the code finds one port, which has a sign
  rintro ⟨text', htext', ⟨digits', hauthority, hport'⟩ | ⟨hauthority, -⟩⟩
  · have hplain : splitHostPort (text ++ ":+" ++ digits) = some (host, some digits') :=
      (splitHostPort_eq_some_iff htext.1).2
        ⟨text', htext', hauthority, fun _ => hport'.1.not_mem (by decide)⟩
    have hsame := Option.some.inj (Prod.mk.inj (Option.some.inj (hsigned.symm.trans hplain))).2
    refine hport'.1.not_mem (c := '+') (by decide) ?_
    rw [← hsame]
    simp
  · have hnone : splitHostPort (text ++ ":+" ++ digits) = some (host, none) :=
      (splitHostPort_eq_some_iff htext.1).2 (hauthority ▸ htext')
    cases (Prod.mk.inj (Option.some.inj (hsigned.symm.trans hnone))).2

/-- **`split_authority` accepts the authorities and nothing else, as long as no port has a sign**,
and returns their host and port. -/
theorem splitAuthority_iff_authorityOf (authority : String) (defaultPort : Option UInt16) :
    (∀ host port, splitAuthority authority defaultPort = some (host, port) ↔
      AuthorityOf authority defaultPort host port) ↔ ¬ SignedPort authority := by
  constructor
  · rintro hexact ⟨text, host, digits, port, htext, rfl, hport⟩
    have hsplit : splitAuthority (text ++ ":+" ++ digits) defaultPort = some (host, port) :=
      splitAuthority_eq_some_iff.2 (.inr ⟨text, digits, htext, rfl, hport⟩)
    exact not_authorityOf_of_sign htext hport ((hexact host port).1 hsplit)
  intro hsign host port
  rw [splitAuthority_eq_some_iff, or_iff_left]
  rintro ⟨text, digits, htext, hauthority, hport⟩
  exact hsign ⟨text, host, digits, port, htext, hauthority, hport⟩

/-- A port with a sign is accepted. -/
theorem signed_port_accepted :
    splitAuthority "host:+80" none = some ("host", 80) ∧
      ¬ AuthorityOf "host:+80" none "host" 80 := by
  have htext : HostText "host" "host" := ⟨by decide, .inl ⟨rfl, by decide, by decide⟩⟩
  have hport : PortText "80" 80 := ⟨⟨by decide, by simp, by decide⟩, by decide⟩
  exact ⟨by decide, not_authorityOf_of_sign htext hport⟩

example : splitAuthority "[::1]:443" none = some ("::1", 443) := by decide

end Flextunnel.Analysis
