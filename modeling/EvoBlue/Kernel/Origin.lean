import EvoBlue.Kernel.Url

/-!
# Origins of URLs

Where a URL points: its scheme, its host in lower case, and the port a client
connects to. Spelling an origin as one text loses the brackets around an IPv6
address, and with them the end of the host.
-/

namespace EvoBlue.Kernel

/-- The port a client connects to: the one that is spelled, or the scheme's own. -/
def effectivePort (scheme : Text) : Option Nat → Option Nat
  | some port => some port
  | none =>
    if scheme = text "https" then some 443
    else if scheme = text "http" then some 80
    else none

@[simp] theorem effectivePort_some (scheme : Text) (port : Nat) :
    effectivePort scheme (some port) = some port := rfl

/-- A port that is no number is kept as it is spelled. -/
structure Endpoint where
  scheme : Text
  host : Text
  port : Except Text (Option Nat)
  deriving DecidableEq, Repr

namespace Endpoint

/-- What a number above the scheme's own port adds to the host. -/
def portSuffix (origin : Endpoint) : Text :=
  match origin.port with
  | .ok (some port) =>
    if effectivePort origin.scheme none = some port then [] else cp ':' :: decimalText port
  | _ => []

/-- Scheme, host and port in one text. -/
def spelling (origin : Endpoint) : Text :=
  origin.scheme ++ text "://" ++ (origin.host ++ origin.portSuffix)

/-- The scheme has no colon, and the port is what a client connects to. -/
structure Formed (origin : Endpoint) : Prop where
  scheme : cp ':' ∉ origin.scheme
  port : ∃ spelled, origin.port = .ok (effectivePort origin.scheme spelled)

/-- The host of `origin` reads as the host and the port of `other`. -/
def Shadows (origin other : Endpoint) : Prop :=
  origin.scheme = other.scheme ∧ origin.portSuffix = [] ∧ other.portSuffix ≠ [] ∧
    origin.host = other.host ++ other.portSuffix

instance (origin other : Endpoint) : Decidable (origin.Shadows other) := by
  unfold Shadows
  infer_instance

theorem portSuffix_digits (origin : Endpoint) :
    origin.portSuffix = [] ∨
      ∃ port, origin.port = .ok (some port) ∧ origin.portSuffix = cp ':' :: decimalText port := by
  unfold portSuffix
  split
  next port spelled =>
    split
    · exact .inl rfl
    · exact .inr ⟨port, spelled, rfl⟩
  · exact .inl rfl

/-- The scheme's own port adds nothing. -/
theorem portSuffix_own (scheme host : Text) :
    portSuffix ⟨scheme, host, .ok (effectivePort scheme none)⟩ = [] := by
  cases own : effectivePort scheme none with
  | none => rfl
  | some port => simp only [portSuffix, own, if_true]

/-- An origin without a port of its own has the scheme's. -/
theorem port_of_no_suffix {origin : Endpoint} (formed : origin.Formed)
    (bare : origin.portSuffix = []) : origin.port = .ok (effectivePort origin.scheme none) := by
  obtain ⟨spelled, port⟩ := formed.port
  cases spelled with
  | none => exact port
  | some number =>
    have own : effectivePort origin.scheme none = some number := by
      by_contra other
      simp only [portSuffix, port, effectivePort_some, if_neg other] at bare
      cases bare
    rw [port, own, effectivePort_some]

/-- Two hosts with ports of their own end where the last colon stands. -/
theorem host_of_ports {front front' : Text} {port port' : Nat}
    (same : front ++ cp ':' :: decimalText port = front' ++ cp ':' :: decimalText port') :
    front = front' ∧ port = port' := by
  have noColon : ∀ n, cp ':' ∉ decimalText n := by
    intro n mem
    have digit := decimalText_digits mem
    revert digit
    decide
  have turned := congrArg List.reverse same
  simp only [List.reverse_append, List.reverse_cons, List.append_assoc, List.singleton_append]
    at turned
  have first := @takeWhile_before _ _ (cp ':') (decimalText port).reverse
    (by simpa using noColon port) front.reverse
  have second := @takeWhile_before _ _ (cp ':') (decimalText port').reverse
    (by simpa using noColon port') front'.reverse
  rw [turned, second] at first
  have digits : decimalText port = decimalText port' := by
    simpa using (congrArg List.reverse first).symm
  have ports := decimalText_injective digits
  subst ports
  exact ⟨List.append_cancel_right same, rfl⟩

/-- One spelling of two origins: they are equal, or a host reads as a host with its port. -/
theorem spelling_eq_iff {origin other : Endpoint} (formed : origin.Formed)
    (formed' : other.Formed) :
    origin.spelling = other.spelling ↔
      origin = other ∨ origin.Shadows other ∨ other.Shadows origin := by
  constructor
  · intro same
    have fronts : origin.scheme = other.scheme := by
      have first := takeWhile_before formed.scheme
        (text "//" ++ (origin.host ++ origin.portSuffix))
      have second := takeWhile_before formed'.scheme
        (text "//" ++ (other.host ++ other.portSuffix))
      have spelled : origin.scheme ++ cp ':' :: (text "//" ++ (origin.host ++ origin.portSuffix)) =
          other.scheme ++ cp ':' :: (text "//" ++ (other.host ++ other.portSuffix)) := by
        simpa [spelling, text] using same
      rw [spelled, second] at first
      exact first.symm
    have hosts : origin.host ++ origin.portSuffix = other.host ++ other.portSuffix := by
      unfold spelling at same
      rw [fronts] at same
      exact List.append_cancel_left same
    rcases origin.portSuffix_digits with bare | ⟨port, number, suffix⟩ <;>
      rcases other.portSuffix_digits with bare' | ⟨port', number', suffix'⟩
    · refine .inl ?_
      have port := port_of_no_suffix formed bare
      have port' := port_of_no_suffix formed' bare'
      rw [bare, bare', List.append_nil, List.append_nil] at hosts
      rw [← fronts] at port'
      cases origin
      cases other
      simp_all
    · rw [bare, List.append_nil] at hosts
      exact .inr (.inl ⟨fronts, bare, by simp [suffix'], hosts⟩)
    · rw [bare', List.append_nil] at hosts
      exact .inr (.inr ⟨fronts.symm, bare', by simp [suffix], hosts.symm⟩)
    · rw [suffix, suffix'] at hosts
      obtain ⟨host, ports⟩ := host_of_ports hosts
      refine .inl ?_
      rw [ports] at number
      cases origin
      cases other
      simp_all
  · rintro (rfl | ⟨scheme, bare, _, host⟩ | ⟨scheme, bare, _, host⟩)
    · rfl
    · simp only [spelling, scheme, bare, host, List.append_nil]
    · simp only [spelling, scheme, bare, host, List.append_nil]

end Endpoint

/-- The origin of a URL; `none` when it cannot be split, or lacks a scheme or a host. -/
def endpoint (unicode : UnicodeData) (url : Text) : Option Endpoint := do
  let parsed ← urlsplit unicode url
  let host := lower unicode ((parsed.hostname unicode).getD [])
  if parsed.scheme = [] ∨ host = [] then none
  else
    some
      { scheme := parsed.scheme
        host
        port :=
          match parsed.port with
          | some port => .ok (effectivePort parsed.scheme port)
          | none => .error (hostInfo parsed.netloc).2 }

/-- The origin of a URL whose port is a number or missing. -/
def numberedEndpoint (unicode : UnicodeData) (url : Text) : Option Endpoint :=
  (endpoint unicode url).filter fun origin => origin.port.isOk

theorem numberedEndpoint_formed {unicode : UnicodeData} {url : Text} {origin : Endpoint}
    (there : numberedEndpoint unicode url = some origin) : origin.Formed := by
  obtain ⟨there, numbered⟩ := Option.filter_eq_some_iff.1 there
  unfold endpoint at there
  obtain ⟨parsed, split_, there⟩ := Option.bind_eq_some_iff.1 there
  simp only at there
  split at there
  next => cases there
  next =>
    cases there
    refine ⟨fun colon => (urlsplit_scheme_clean split_ colon).2 rfl, ?_⟩
    cases port : parsed.port with
    | some spelled => exact ⟨spelled, rfl⟩
    | none => simp [port, Except.isOk, Except.toBool] at numbered

end EvoBlue.Kernel
