import Hamlet.Lib.IpTextProofs
import Hamlet.LoginProofs

/-!
# What the URL splitter accepts

The documentation of `Url` gives its grammar: `scheme://host[:port][/path]`. `InGrammar` says what
that is, for an input and the URL it is parsed to: the host is neither empty nor has a separator in
it unless it is a bracketed IPv6 address, and a port is digits.

`Url::parse` looks for the last `:` of the authority and for a number behind it, and accepts more.
`Malformed` lists the authorities it should refuse, in four kinds: an empty one, one that starts
with its only colon, a port with a sign, and a host with colons and no brackets.
`accepts_only_grammar_iff` says that these are ALL.
-/

namespace HamletLogin

open RustText IpText

-- ── The documented grammar ───────────────────────────────────────────────────

structure HostOk (host : String) : Prop where
  nonempty : host ≠ ""
  form     : (':' ∉ host.toList ∧ '/' ∉ host.toList) ∨ isBracketedIpv6 host = true

/-- What follows the host: nothing, or a colon and the digits of the port. -/
def PortOk (text : String) (port : ℕ) : Prop :=
  text = "" ∨ ∃ digits : String, text = ":" ++ digits ∧ digits ≠ "" ∧
    (∀ c ∈ digits.toList, c.isDigit = true) ∧ Nat.ofDigitChars 10 digits.toList 0 = port

/-- The authority is `host[:port]`, with this host and this port. -/
def AuthorityOk (authority host : String) (port : ℕ) : Prop :=
  ∃ portText, authority = host ++ portText ∧ HostOk host ∧ PortOk portText port

/-- The input is `scheme://host[:port][/path]`, with the host and the port of the URL. -/
def InGrammar (input : String) (url : Url) : Prop :=
  ∃ p : UrlParts, input = p.text ∧ AuthorityOk p.authority url.host url.port

/-- Accepted means in the grammar, and everything else is an error. -/
structure AcceptsOnlyGrammar (input : String) : Prop where
  accepted : ∀ url, Url.parse input = .ok url → InGrammar input url
  others   : (∀ url, ¬ InGrammar input url) → ∃ e, Url.parse input = .error e

-- ── The other authorities that are accepted ──────────────────────────────────

/-- The authorities outside the grammar that are accepted. -/
inductive Malformed : String → Prop where
  | noAuthority : Malformed ""
  /-- The guard `!h.is_empty()` fails, and the default arm takes the colon into the host. -/
  | noHost (p : String) (hp : ':' ∉ p.toList) : Malformed (":" ++ p)
  /-- `parse::<u16>` reads a sign. -/
  | signedPort (host digits : String) (hhost : host ≠ "")
      (hport : (parseU16 ("+" ++ digits)).isSome = true) :
      Malformed (host ++ ":" ++ ("+" ++ digits))
  /-- Only the last colon is looked at. -/
  | bareColons (host p : String) (hcolon : ':' ∈ host.toList)
      (hbare : isBracketedIpv6 host = false) (hport : (parseU16 p).isSome = true) :
      Malformed (host ++ ":" ++ p)

theorem colon_notMem_of_parseU16 {p : String} {port : ℕ} (h : parseU16 p = some port) :
    ':' ∉ p.toList :=
  notMem_of_parseUnsigned h (by decide) (by decide)

/-- A port text that is read and has no sign is digits. -/
theorem portOk_of_parseU16 {p : String} {port : ℕ} (h : parseU16 p = some port)
    (hsign : ∀ digits, p ≠ "+" ++ digits) : PortOk (":" ++ p) port := by
  obtain ⟨digits, hp, hne, hvalue, -⟩ := parseUnsigned_eq_some_iff.mp h
  rcases hp with hp | hp
  · obtain ⟨hdigits, hport⟩ := digitsValue_eq_some_iff.mp hvalue
    refine .inr ⟨p, rfl, ?_, hp ▸ hdigits, hp ▸ hport⟩
    rintro rfl
    exact hne hp.symm
  · refine absurd ?_ (hsign (String.ofList digits))
    rw [String.ext_iff, hp]
    simp

/-- A port with a sign is not digits. -/
theorem not_portOk_signed (digits : String) (port : ℕ) : ¬ PortOk (":" ++ ("+" ++ digits)) port := by
  rintro (hempty | ⟨digits', heq, -, hdigits, -⟩)
  · exact absurd (congrArg String.toList hempty) (by simp)
  · have hsame : digits' = "+" ++ digits := ((String.append_right_inj ":").mp heq).symm
    have hplus : '+' ∈ digits'.toList := by
      rw [hsame]
      simp
    exact absurd (hdigits '+' hplus) (by decide)

/-- **The four kinds are accepted and outside the grammar.** -/
theorem splitAuthority_malformed {authority : String} (h : Malformed authority) (tls : Bool)
    (input : String) :
    ∃ hp, Url.splitAuthority tls input authority = .ok hp ∧ ¬ AuthorityOk authority hp.1 hp.2 := by
  cases h with
  | noAuthority =>
      refine ⟨_, splitAuthority_no_colon (by simp) tls input, ?_⟩
      rintro ⟨portText, -, hhost, -⟩
      exact hhost.nonempty rfl
  | noHost p hp =>
      refine ⟨_, splitAuthority_no_host hp tls input, ?_⟩
      rintro ⟨portText, -, hhost, -⟩
      rcases hhost.form with hform | hform
      · exact hform.1 (by simp)
      · have hhead := (of_isBracketedIpv6 hform).1
        simp at hhead
  | signedPort host digits hhost hport =>
      obtain ⟨port, hport⟩ := Option.isSome_iff_exists.mp hport
      have hsplit := splitAuthority_port hhost (colon_notMem_of_parseU16 hport) tls input
      rw [hport] at hsplit
      refine ⟨_, hsplit, ?_⟩
      rintro ⟨portText, hauth, -, hportOk⟩
      have htext : portText = ":" ++ ("+" ++ digits) := by
        rw [String.append_assoc] at hauth
        exact ((String.append_right_inj host).mp hauth).symm
      exact not_portOk_signed digits port (htext ▸ hportOk)
  | bareColons host p hcolon hbare hport =>
      obtain ⟨port, hport⟩ := Option.isSome_iff_exists.mp hport
      have hhost : host ≠ "" := by
        rintro rfl
        exact absurd hcolon (by simp)
      have hsplit := splitAuthority_port hhost (colon_notMem_of_parseU16 hport) tls input
      rw [hport] at hsplit
      refine ⟨_, hsplit, ?_⟩
      rintro ⟨portText, -, hhostOk, -⟩
      rcases hhostOk.form with hform | hform
      · exact hform.1 hcolon
      · exact Bool.false_ne_true (hbare.symm.trans hform)

/-- **Nothing else is.** -/
theorem authorityOk_of_not_malformed {tls : Bool} {input authority : String} {hp : String × ℕ}
    (h : Url.splitAuthority tls input authority = .ok hp) (hslash : '/' ∉ authority.toList)
    (hwell : ¬ Malformed authority) : AuthorityOk authority hp.1 hp.2 := by
  rcases splitAuthority_cases h with
    ⟨hcolon, rfl⟩ | ⟨p, rfl, hp', rfl⟩ | ⟨host, p, port, rfl, hhost, hp', hport, rfl⟩
  · have hne : authority ≠ "" := by
      rintro rfl
      exact hwell .noAuthority
    exact ⟨"", String.append_empty.symm, ⟨hne, .inl ⟨hcolon, hslash⟩⟩, .inl rfl⟩
  · exact absurd (.noHost p hp') hwell
  · have hsome : (parseU16 p).isSome = true := by rw [hport]; rfl
    refine ⟨":" ++ p, String.append_assoc .., ⟨hhost, ?_⟩, portOk_of_parseU16 hport ?_⟩
    · by_cases hcolon : ':' ∈ host.toList
      · refine .inr ?_
        by_contra hbracketed
        exact hwell (.bareColons host p hcolon (Bool.eq_false_iff.mpr hbracketed) hsome)
      · refine .inl ⟨hcolon, fun hmem => hslash ?_⟩
        rw [String.toList_append, String.toList_append]
        exact List.mem_append_left _ (List.mem_append_left _ hmem)
    · rintro digits rfl
      exact hwell (.signedPort host digits hhost hsome)

/-- **What is accepted beyond the grammar.** For every input: it is accepted only as an instance of
    the documented grammar if and only if it is not a scheme, `://`, a malformed authority and a
    path. -/
theorem accepts_only_grammar_iff (input : String) :
    AcceptsOnlyGrammar input ↔ ∀ p : UrlParts, input = p.text → ¬ Malformed p.authority := by
  constructor
  · rintro hgrammar p rfl hmal
    obtain ⟨hp, hsplit, hnot⟩ := splitAuthority_malformed hmal p.scheme.tls p.text
    have hparse := parse_text p
    rw [hsplit] at hparse
    obtain ⟨q, htext, hauth⟩ := hgrammar.accepted _ hparse
    rw [← (text_injective htext).2.1] at hauth
    exact hnot hauth
  · intro hwell
    have haccepted : ∀ url, Url.parse input = .ok url → InGrammar input url := by
      intro url hparse
      obtain ⟨p, rfl⟩ := exists_parts hparse
      rw [parse_text] at hparse
      cases hsplit : Url.splitAuthority p.scheme.tls p.text p.authority with
      | error e => rw [hsplit] at hparse; exact nomatch hparse
      | ok hp =>
          rw [hsplit] at hparse
          obtain rfl := Except.ok.inj hparse
          exact ⟨p, rfl, authorityOk_of_not_malformed hsplit p.authority_no_slash (hwell p rfl)⟩
    refine ⟨haccepted, ?_⟩
    intro hnone
    cases hparse : Url.parse input with
    | error e => exact ⟨e, rfl⟩
    | ok url => exact absurd (haccepted url hparse) (hnone url)

/-- **The colon becomes the host**: with no host before it, `:8080` is dialled at port 80. -/
theorem no_host_accepted :
    Url.parse "http://:8080" = .ok ⟨false, ":8080", 80, "/"⟩ ∧
      ¬ AcceptsOnlyGrammar "http://:8080" := by
  have hparse : Url.parse "http://:8080" = .ok ⟨false, ":8080", 80, "/"⟩ := by decide
  refine ⟨hparse, ?_⟩
  intro hgrammar
  obtain ⟨p, -, portText, -, hhost, -⟩ := hgrammar.accepted _ hparse
  rcases hhost.form with hform | hform
  · exact hform.1 (by decide)
  · exact absurd hform (by decide)

end HamletLogin
