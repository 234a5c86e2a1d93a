import ForbiddenHosts.Proofs.Url.Addresses
import ForbiddenHosts.Proofs.Url.Encoding

/-!
# Hosts in normal form

The host of a special URL comes out of reading in **normal form**: a name in lower case that does
not end in a number, an IPv4 address of thirty-two bits, or an IPv6 address of eight pieces.  The
text of such a host is read back as that host.  It is free of the marks that end an authority, and
its end is found before a port.
-/
namespace ForbiddenHosts.Url

variable {text rest : List Char} {host : Host} {c : Char}

/-! ### Domain names -/

/-- A text of characters that a domain name may hold. -/
def Domain (text : List Char) : Prop := ∀ c ∈ text, isForbiddenInDomain c = false

/-- A text without upper-case letters. -/
def Lower (text : List Char) : Prop := ∀ c ∈ text, c.toLower = c

theorem Lower.map_toLower (h : Lower text) : text.map Char.toLower = text := by
  rw [List.map_congr_left h]
  exact List.map_id _

theorem domain_ascii (h : isForbiddenInDomain c = false) : c.toNat < 0x7F := by
  simp only [isForbiddenInDomain, Bool.or_eq_false_iff, decide_eq_false_iff_not] at h
  omega

/-- What holds of the ASCII characters that a domain name may hold holds of all it may hold. -/
theorem forall_domain {p : Char → Prop}
    (h : ∀ n < 0x7F, isForbiddenInDomain (Char.ofNat n) = false → p (Char.ofNat n))
    (hc : isForbiddenInDomain c = false) : p c := by
  rw [← Char.ofNat_toNat c] at hc ⊢
  rw [Char.ofNat_toNat] at hc
  exact h c.toNat (domain_ascii hc) (by rwa [Char.ofNat_toNat])

theorem domain_map_toLower (h : Domain text) : Domain (text.map Char.toLower) := by
  intro c hc
  obtain ⟨d, hd, rfl⟩ := List.mem_map.mp hc
  exact forall_domain (p := fun c => isForbiddenInDomain c.toLower = false) (by decide) (h d hd)

theorem lower_map_toLower (h : Domain text) : Lower (text.map Char.toLower) := by
  intro c hc
  obtain ⟨d, hd, rfl⟩ := List.mem_map.mp hc
  exact forall_domain (p := fun c => c.toLower.toLower = c.toLower) (by decide) (h d hd)

/-- The marks that have a meaning in an authority or behind it. -/
def authorityMarks : List Char := ['/', '\\', '?', '#', '@']

theorem Domain.free (h : Domain text) : Free (['[', ']', ':', '%'] ++ authorityMarks) text := by
  intro c hc
  exact forall_domain (p := fun c => (0x20 < c.toNat ∧ c.toNat < 0x7F) ∧
    c ∉ ['[', ']', ':', '%'] ++ authorityMarks) (by decide) (h c hc)

/-- A domain name holds nothing that is encoded, so it is read as it is. -/
theorem special_of_domain (h : Domain text) : Host.special text = Host.ofDomain text := by
  have hdecode : Utf8.decode (percentDecode text) = text := by
    rw [percentDecode_of_not_mem (h.free.not_mem (by decide)), Utf8.decode_encode]
  rw [Host.special, hdecode]
  rintro rest rfl
  have hbracket : '[' ∉ '[' :: rest := h.free.not_mem (by decide)
  exact hbracket List.mem_cons_self

theorem any_isForbiddenInDomain_eq_false_iff :
    text.any isForbiddenInDomain = false ↔ Domain text := by
  simp [Domain]

/-- A domain name in lower case is read as an IPv4 address or as it is. -/
theorem ofDomain_of_lower (domain : Domain text) (lower : Lower text) (ne_nil : text ≠ []) :
    Host.ofDomain text =
      if endsInNumber text then
        match ipv4? text with
        | some address => .ok (.ipv4 address)
        | none => .error .invalidIpv4
      else .ok (.name (String.ofList text)) := by
  have hallowed := any_isForbiddenInDomain_eq_false_iff.mpr domain
  rw [Host.ofDomain, hallowed, lower.map_toLower, if_neg (by decide)]
  show (if text.isEmpty then _ else _) = _
  exact if_neg (by simpa using ne_nil)

/-! ### Texts of addresses -/

theorem forall_mem_ipv4Text {p : Char → Prop} (hdigit : ∀ d < 10, p (Nat.digitChar d))
    (hpoint : p '.') (address : Nat) : ∀ c ∈ ipv4Text address, p c := by
  have hbyte : ∀ n, ∀ c ∈ Nat.toDigits 10 n, p c :=
    fun _ => forall_mem_toDigits (by decide) hdigit
  intro c hc
  simp only [ipv4Text, List.mem_append, List.mem_cons] at hc
  rcases hc with ((hc | rfl | hc) | rfl | hc) | rfl | hc
  all_goals first
    | exact hpoint
    | exact hbyte _ c hc

theorem forall_mem_ipv6Join {p : Char → Prop} (hdigit : ∀ d < 16, p (Nat.digitChar d))
    (hcolon : p ':') (ns : List Nat) : ∀ c ∈ ipv6Join ns, p c := by
  have hpiece : ∀ n, ∀ c ∈ Nat.toDigits 16 n, p c :=
    fun _ => forall_mem_toDigits (by decide) hdigit
  induction ns with
  | nil => nofun
  | cons n ns ih =>
    intro c hc
    cases ns with
    | nil => exact hpiece n c (by simpa [ipv6Join] using hc)
    | cons m ns =>
      rw [ipv6Join_cons_cons, List.mem_append, List.mem_cons] at hc
      rcases hc with hc | rfl | hc
      · exact hpiece n c hc
      · exact hcolon
      · exact ih c hc

theorem forall_mem_ipv6Text {p : Char → Prop} (hdigit : ∀ d < 16, p (Nat.digitChar d))
    (hcolon : p ':') (ns : List Nat) : ∀ c ∈ ipv6Text ns, p c := by
  have hjoin := forall_mem_ipv6Join hdigit hcolon
  intro c hc
  rw [ipv6Text] at hc
  simp only at hc
  split at hc
  · exact hjoin _ c hc
  · simp only [List.mem_append, List.mem_cons, List.not_mem_nil, or_false] at hc
    rcases hc with (hc | rfl | rfl) | hc
    all_goals first
      | exact hcolon
      | exact hjoin _ c hc

theorem domain_ipv4Text (address : Nat) : Domain (ipv4Text address) :=
  forall_mem_ipv4Text (by decide) (by decide) address

theorem lower_ipv4Text (address : Nat) : Lower (ipv4Text address) :=
  forall_mem_ipv4Text (by decide) (by decide) address

theorem free_ipv6Text (ns : List Nat) : Free (['[', ']'] ++ authorityMarks) (ipv6Text ns) :=
  forall_mem_ipv6Text (by decide) (by decide) ns

theorem ipv4Text_ne_nil (address : Nat) : ipv4Text address ≠ [] := by
  simp [ipv4Text]

/-! ### The normal form -/

/-- A host as reading leaves it. -/
inductive Host.Normal : Host → Prop
  | name {text : List Char} (domain : Domain text) (lower : Lower text) (ne_nil : text ≠ [])
      (noNumber : endsInNumber text = false) : Normal (.name (String.ofList text))
  | ipv4 {address : Nat} (small : address < Nat.pow 256 4) : Normal (.ipv4 address)
  | ipv6 {ns : List Nat} (eight : ns.length = 8) (sixteen : Sixteen ns) : Normal (.ipv6 ns)

theorem normal_of_bracketed (h : Host.bracketed text = .ok host) : host.Normal := by
  rw [Host.bracketed] at h
  split at h
  · split at h
    · rename_i ns hread
      cases h
      obtain ⟨eight, sixteen⟩ := eight_sixteen_of_ipv6? hread
      exact .ipv6 eight sixteen
    · cases h
  · cases h

theorem normal_of_ofDomain (h : Host.ofDomain text = .ok host) : host.Normal := by
  rw [Host.ofDomain] at h
  simp only at h
  split at h
  · cases h
  · rename_i hallowed
    have hdomain := any_isForbiddenInDomain_eq_false_iff.mp (Bool.eq_false_iff.mpr hallowed)
    split at h
    · cases h
    · rename_i hempty
      split at h
      · split at h
        · rename_i address hread
          cases h
          exact .ipv4 (lt_of_ipv4? hread)
        · cases h
      · rename_i hnumber
        cases h
        exact .name (domain_map_toLower hdomain) (lower_map_toLower hdomain)
          (by simpa using hempty) (by simpa using hnumber)

/-- **The host that a special URL is read with is in normal form.** -/
theorem normal_of_special (h : Host.special text = .ok host) : host.Normal := by
  rw [Host.special.eq_def] at h
  split at h
  · exact normal_of_bracketed h
  · exact normal_of_ofDomain h

/-- **A host in normal form is read back from its text.** -/
theorem Host.Normal.special_text (h : host.Normal) : Host.special host.text = .ok host := by
  cases h with
  | @name text domain lower ne_nil noNumber =>
    rw [Host.text, String.toList_ofList, special_of_domain domain,
      ofDomain_of_lower domain lower ne_nil, noNumber]
    rfl
  | @ipv4 address small =>
    rw [Host.text, special_of_domain (domain_ipv4Text address),
      ofDomain_of_lower (domain_ipv4Text address) (lower_ipv4Text address)
        (ipv4Text_ne_nil address), endsInNumber_ipv4Text, ipv4?_ipv4Text small]
    rfl
  | @ipv6 ns eight sixteen =>
    show Host.bracketed (ipv6Text ns ++ [']']) = _
    rw [Host.bracketed, List.getLast?_append_of_ne_nil _ (List.cons_ne_nil _ _),
      List.dropLast_concat, ipv6?_ipv6Text eight sixteen]
    rfl

theorem Host.Normal.text_ne_nil (h : host.Normal) : host.text ≠ [] := by
  cases h with
  | name _ _ ne_nil _ => rwa [Host.text, String.toList_ofList]
  | ipv4 _ => exact ipv4Text_ne_nil _
  | ipv6 _ _ => exact List.cons_ne_nil _ _

theorem Host.Normal.not_isEmpty (h : host.Normal) : host.isEmpty = false := by
  cases h with
  | name _ _ ne_nil _ => simpa [Host.isEmpty] using ne_nil
  | ipv4 _ => rfl
  | ipv6 _ _ => rfl

theorem Host.Normal.free (h : host.Normal) : Free authorityMarks host.text := by
  cases h with
  | name domain _ _ _ =>
    rw [Host.text, String.toList_ofList]
    exact domain.free.mono (List.subset_append_right _ _)
  | ipv4 _ => exact (domain_ipv4Text _).free.mono (List.subset_append_right _ _)
  | @ipv6 ns _ _ =>
    have hinside : Free authorityMarks (ipv6Text ns) :=
      (free_ipv6Text ns).mono (List.subset_append_right _ _)
    have hclose : Free authorityMarks [']'] := free_of_all (by decide)
    show Free authorityMarks ('[' :: (ipv6Text ns ++ [']']))
    exact (hinside.append hclose).cons (by decide)

/-! ### The end of a host -/

/-- Characters that are neither brackets nor, outside brackets, colons belong to the host. -/
theorem hostLength_append {bracketed : Bool} (hbrackets : '[' ∉ text ∧ ']' ∉ text)
    (hcolon : bracketed = false → ':' ∉ text) (rest : List Char) :
    hostLength bracketed (text ++ rest) = text.length + hostLength bracketed rest := by
  induction text with
  | nil => simp
  | cons c text ih =>
    simp only [List.mem_cons, not_or] at hbrackets hcolon
    have hc : ¬(c = ':' ∧ bracketed = false) := fun h => (hcolon h.2).1 h.1.symm
    rw [List.cons_append, hostLength, if_neg hc, if_neg (Ne.symm hbrackets.1.1),
      if_neg (Ne.symm hbrackets.2.1),
      ih ⟨hbrackets.1.2, hbrackets.2.2⟩ (fun hfalse => (hcolon hfalse).2), List.length_cons]
    omega

theorem hostLength_domain (h : Domain text) (rest : List Char) :
    hostLength false (text ++ rest) = text.length + hostLength false rest :=
  hostLength_append ⟨h.free.not_mem (by decide), h.free.not_mem (by decide)⟩
    (fun _ => h.free.not_mem (by decide)) rest

/-- **The text of a host belongs to the host**, whatever follows. -/
theorem Host.Normal.hostLength_text (h : host.Normal) (rest : List Char) :
    hostLength false (host.text ++ rest) = host.text.length + hostLength false rest := by
  cases h with
  | name domain _ _ _ =>
    rw [Host.text, String.toList_ofList]
    exact hostLength_domain domain rest
  | ipv4 _ => exact hostLength_domain (domain_ipv4Text _) rest
  | @ipv6 ns _ _ =>
    have hfree := free_ipv6Text ns
    have hinside : hostLength true (ipv6Text ns ++ ']' :: rest) =
        (ipv6Text ns).length + hostLength true (']' :: rest) :=
      hostLength_append ⟨hfree.not_mem (by decide), hfree.not_mem (by decide)⟩
        (fun hfalse => absurd hfalse (by decide)) _
    have hclose : hostLength true (']' :: rest) = hostLength false rest + 1 := by
      rw [hostLength]
      rfl
    show hostLength false ('[' :: (ipv6Text ns ++ [']'] ++ rest)) = _
    rw [hostLength, List.append_assoc, List.singleton_append]
    show hostLength true (ipv6Text ns ++ ']' :: rest) + 1 =
      (ipv6Text ns ++ [']']).length + 1 + hostLength false rest
    rw [hinside, hclose, List.length_append, List.length_singleton]
    omega

end ForbiddenHosts.Url
