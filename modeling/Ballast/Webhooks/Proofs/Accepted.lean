/-
Which literal addresses a webhook URL may name.

The URL parser does not keep what was typed: it writes an IPv6 address in
hexadecimal with its longest run of zeros left out (`Serialised`). That
text tells the check every address but a mapped one, so a reserved IPv4
address is accepted in the mapped form and refused in its own.

The check works on text: it looks for a dotted address, bare or in the
mapped form, and otherwise takes a name for a name. So its answer
depends on how an address is spelled, and a URL always passes the parser
first, which is why it is the parser's spelling that counts.
-/
import Ballast.Webhooks.Proofs.Spellings

namespace Ballast.Webhooks

open Soroban Js

/-- What `URL.hostname` has between the brackets for the address `x`. -/
structure Serialised (t : Text) (x : List Nat) : Prop where
  denotes : parseIPv6 t = some x
  hexadecimal : '.' ∉ t
  /-- seven zeros are left out -/
  compressed : ∀ n, x = List.replicate 7 0 ++ [n] →
    t = "::".toList ++ if n = 0 then [] else Nat.toDigits 16 n

/-- What the check asks of a URL besides its host. -/
def Permitted (allowHttp : Bool) (url : Url) : Prop :=
  (url.protocol = "https:".toList
    ∨ (allowHttp = true ∧ url.protocol = "http:".toList))
  ∧ url.username = [] ∧ url.password = []

instance (allowHttp : Bool) (url : Url) :
    Decidable (Permitted allowHttp url) :=
  inferInstanceAs (Decidable (_ ∧ _))

section

variable {p : Platform} {allowHttp : Bool} {raw : Text} {url : Url}

/-- A literal host is its own only address. -/
theorem accepted_iff {host : Text} (hurl : p.parseUrl raw = some url)
    (hhost : toLowerCase (stripBrackets url.hostname) = host)
    (hip : isIP host ≠ 0) :
    assertSafeWebhookUrl p allowHttp raw = .ok url
      ↔ Permitted allowHttp url
        ∧ (host ≠ "localhost".toList
          ∧ ∀ suffix ∈ blockedSuffixes, ¬ suffix.isSuffixOf host)
        ∧ isPrivateAddress host = false := by
  unfold assertSafeWebhookUrl
  simp only [hhost, hurl, if_pos hip, bind_ok, expect_ok, ensure_ok,
    pure_ok, Option.some.injEq, List.any_cons, List.any_nil, Bool.or_false,
    exists_eq_left', exists_const, ne_eq, List.cons_ne_self]
  constructor
  · rintro ⟨hprotocol, hcred, hname, -, hpublic, -⟩
    exact ⟨⟨hprotocol, hcred⟩, hname, hpublic⟩
  · rintro ⟨⟨hprotocol, hcred⟩, hname, hpublic⟩
    exact ⟨hprotocol, hcred, hname, by simp, hpublic, trivial⟩

/-- No host name is blocked that has no dot, unless it is `localhost`. -/
theorem not_blocked {host : Text} (hdot : '.' ∉ host) :
    ∀ suffix ∈ blockedSuffixes, ¬ suffix.isSuffixOf host := by
  intro suffix hsuffix hend
  have hmem : '.' ∈ suffix := by
    have hall : blockedSuffixes.all (fun suffix => '.' ∈ suffix) = true := rfl
    simpa using List.all_eq_true.mp hall suffix hsuffix
  exact hdot ((List.isSuffixOf_iff_suffix.mp hend).mem hmem)

/-- An IPv6 host. -/
theorem accepted_IPv6 {t : Text} {x : List Nat}
    (hurl : p.parseUrl raw = some url)
    (hhost : url.hostname = '[' :: t ++ [']']) (h : Serialised t x) :
    assertSafeWebhookUrl p allowHttp raw = .ok url
      ↔ Permitted allowHttp url ∧ isPrivateAddress t = false := by
  have hstrip : stripBrackets url.hostname = t := by
    rw [hhost]
    simp [stripBrackets]
  have hlower : parseIPv6 (toLowerCase t) = some x := by
    rw [parseIPv6_toLowerCase]
    exact h.denotes
  have hdot : '.' ∉ toLowerCase t := by
    rw [mem_toLowerCase rfl rfl]
    exact h.hexadecimal
  have hlocal : toLowerCase t ≠ "localhost".toList := by
    intro heq
    rw [heq] at hlower
    cases hlower
  rw [accepted_iff hurl (congrArg toLowerCase hstrip)
      (by rw [isIP_of_parseIPv6 hlower]; decide),
    isPrivateAddress_toLowerCase (parseIPv4_eq_none h.denotes)]
  constructor
  · exact fun ⟨hpermitted, _, hpublic⟩ => ⟨hpermitted, hpublic⟩
  · exact fun ⟨hpermitted, hpublic⟩ =>
      ⟨hpermitted, ⟨hlocal, not_blocked hdot⟩, hpublic⟩

theorem isPrivateAddress_of_parseIPv4 {t : Text} {ip : IPv4}
    (h : parseIPv4 t = some ip) :
    isPrivateAddress t = reserved ip.a ip.b ip.c := by
  rw [← ipv4Private_eq h, isPrivateAddress, isIP_of_parseIPv4 h]
  rfl

/-- An IPv4 host. -/
theorem accepted_IPv4 {ip : IPv4} (hurl : p.parseUrl raw = some url)
    (hhost : parseIPv4 url.hostname = some ip)
    (h : assertSafeWebhookUrl p allowHttp raw = .ok url) :
    reserved ip.a ip.b ip.c = false := by
  have hno : ∀ c ∈ url.hostname, c ≠ '[' ∧ c ≠ ']' := by
    intro c hc
    rcases mem_fourNumbers (fourNumbers_of_parseIPv4 hhost) hc with hd | rfl
    · constructor
      · rintro rfl
        cases hd
      · rintro rfl
        cases hd
    · decide
  have hstrip : stripBrackets url.hostname = url.hostname := by
    have hhead : url.hostname.head? ≠ some '[' := fun hhead =>
      (hno '[' (List.mem_of_mem_head? hhead)).1 rfl
    have hlast : url.hostname.getLast? ≠ some ']' := fun hlast =>
      (hno ']' (List.mem_of_mem_getLast? hlast)).2 rfl
    simp only [stripBrackets, if_neg hhead, if_neg hlast]
  have hlower : parseIPv4 (toLowerCase url.hostname) = some ip := by
    rw [parseIPv4_toLowerCase]
    exact hhost
  have hpublic := ((accepted_iff hurl (congrArg toLowerCase hstrip)
    (by rw [isIP_of_parseIPv4 hlower]; decide)).mp h).2.2
  rwa [isPrivateAddress_of_parseIPv4 hlower] at hpublic

/-- Its hexadecimal text tells of every address but a reserved one in
IPv4. -/
theorem serialised_missed {t : Text} {x : List Nat} (h : Serialised t x) :
    isPrivateAddress t = false ∧ forbidden x = true
      ↔ ∃ ip, mappedIPv4 x = some ip ∧ reserved ip.a ip.b ip.c = true := by
  rw [missed_iff h.denotes]
  have hlower : parseIPv6 (toLowerCase t) = some x := by
    rw [parseIPv6_toLowerCase]
    exact h.denotes
  constructor
  · rintro ⟨hspecial, hmatch⟩
    unfold special at hspecial
    split at hspecial
    · next ip hip => exact ⟨ip, hip, hspecial⟩
    · rcases of_decide_eq_true hspecial with rfl | rfl
      · have ht := h.compressed 0 rfl
        exact (hmatch (.inr (.inl (by rw [ht]; rfl)))).elim
      · have ht := h.compressed 1 rfl
        exact (hmatch (.inr (.inr (by rw [ht]; decide)))).elim
  · rintro ⟨ip, hip, hres⟩
    obtain ⟨-, hzero, hone⟩ := mappedIPv4_some hip
    refine ⟨by rw [special, hip]; exact hres, ?_⟩
    rintro (htail | heq | heq)
    · -- the tail has dots
      obtain ⟨u, hu⟩ := Option.isSome_iff_exists.mp htail
      obtain ⟨heq, hfour⟩ := mappedTail_iff.mp hu
      refine h.hexadecimal ((mem_toLowerCase rfl rfl).mp ?_)
      rw [heq]
      exact List.mem_append_right _ (dot_of_fourNumbers hfour)
    · have hx : parseIPv6 "::".toList = some unspecified := by decide
      rw [heq, hx] at hlower
      exact hzero (Option.some.inj hlower).symm
    · have hx : parseIPv6 "::1".toList = some loopback := by decide
      rw [heq, hx] at hlower
      exact hone (Option.some.inj hlower).symm

end

-- ============================================================= the results

/-- The check is right about a text that tells its address, and only then
does it agree with another that does. What the URL parser writes tells of
every address but a reserved one in IPv4. -/
theorem answers_follow_texts (p : Platform) :
    (∀ s x, parseIPv6 s = some x →
      (isPrivateAddress s = forbidden x ↔ Telling s x))
    ∧ (∀ s t x, parseIPv6 s = some x → parseIPv6 t = some x →
      (isPrivateAddress s = isPrivateAddress t
        ↔ (Telling s x ↔ Telling t x)))
    ∧ (∀ s t x ip, parseIPv6 s = some x → mappedIPv4 x = some ip →
      parseIPv4 t = some ip →
      (isPrivateAddress s = isPrivateAddress t ↔ Telling s x))
    ∧ (∀ allowHttp raw url ip, p.parseUrl raw = some url →
      parseIPv4 url.hostname = some ip →
      assertSafeWebhookUrl p allowHttp raw = .ok url →
      reserved ip.a ip.b ip.c = false)
    ∧ ∀ allowHttp raw url t x, p.parseUrl raw = some url →
      url.hostname = '[' :: t ++ [']'] → Serialised t x →
      ((assertSafeWebhookUrl p allowHttp raw = .ok url →
          forbidden x = false)
        ↔ (Permitted allowHttp url →
          ∀ ip, mappedIPv4 x = some ip → reserved ip.a ip.b ip.c = false)) := by
  refine ⟨fun s x h => isPrivateAddress_iff h, ?_, ?_, ?_, ?_⟩
  · intro s t x hs ht
    rw [← isPrivateAddress_iff hs, ← isPrivateAddress_iff ht]
    cases isPrivateAddress s <;> cases isPrivateAddress t
      <;> cases forbidden x <;> simp
  · intro s t x ip hs hx ht
    rw [← isPrivateAddress_iff hs, isPrivateAddress_of_parseIPv4 ht,
      forbidden, hx]
  · intro allowHttp raw url ip hurl hhost haccepted
    exact accepted_IPv4 hurl hhost haccepted
  · intro allowHttp raw url t x hurl hhost h
    rw [accepted_IPv6 hurl hhost h]
    constructor
    · intro hsafe hpermitted ip hip
      rw [Bool.eq_false_iff]
      intro hres
      obtain ⟨hpublic, hforbidden⟩ :=
        (serialised_missed h).mpr ⟨ip, hip, hres⟩
      rw [hsafe ⟨hpermitted, hpublic⟩] at hforbidden
      cases hforbidden
    · rintro hpublic ⟨hpermitted, hpass⟩
      rw [Bool.eq_false_iff]
      intro hforbidden
      obtain ⟨ip, hip, hres⟩ := (serialised_missed h).mp ⟨hpass, hforbidden⟩
      rw [hpublic hpermitted ip hip] at hres
      cases hres

/-- The parser on two literals. -/
def literals : Platform where
  parseUrl raw :=
    if raw = "https://[::ffff:10.0.0.1]/".toList then
      some ⟨"https:".toList, [], [], "[::ffff:a00:1]".toList⟩
    else if raw = "https://[0:0:0:0:0:0:0:1]/".toList then
      some ⟨"https:".toList, [], [], "[::1]".toList⟩
    else none
  resolve _ := []

theorem answers_follow_texts_demo :
    (isPrivateAddress "FE80::1".toList
        = forbidden [0xfe80, 0, 0, 0, 0, 0, 0, 1]
      ↔ Telling "FE80::1".toList [0xfe80, 0, 0, 0, 0, 0, 0, 1])
    ∧ ((assertSafeWebhookUrl literals false
            "https://[0:0:0:0:0:0:0:1]/".toList
          = .ok ⟨"https:".toList, [], [], "[::1]".toList⟩ →
          forbidden loopback = false)
      ↔ (Permitted false ⟨"https:".toList, [], [], "[::1]".toList⟩ →
          ∀ ip, mappedIPv4 loopback = some ip →
            reserved ip.a ip.b ip.c = false)) := by
  obtain ⟨htell, -, -, -, hliteral⟩ := answers_follow_texts literals
  refine ⟨htell "FE80::1".toList _ (by decide), ?_⟩
  refine hliteral false "https://[0:0:0:0:0:0:0:1]/".toList _ "::1".toList
    loopback (by decide) rfl ⟨by decide, by decide, fun n hn => ?_⟩
  obtain rfl : n = 1 := by simpa [loopback] using hn.symm
  decide

/-- Two spellings of one address with two answers, the second as the URL
parser spells it. -/
theorem mapped_host_accepted :
    parseIPv6 "::ffff:10.0.0.1".toList
        = some [0, 0, 0, 0, 0, 0xffff, 0x0a00, 1]
      ∧ parseIPv6 "::ffff:a00:1".toList
        = some [0, 0, 0, 0, 0, 0xffff, 0x0a00, 1]
      ∧ isPrivateAddress "::ffff:10.0.0.1".toList = true
      ∧ isPrivateAddress "10.0.0.1".toList = true
      ∧ isPrivateAddress "::ffff:a00:1".toList = false
      ∧ assertSafeWebhookUrl literals false
          "https://[::ffff:10.0.0.1]/".toList
        = .ok ⟨"https:".toList, [], [], "[::ffff:a00:1]".toList⟩ := by
  decide +kernel

end Ballast.Webhooks
