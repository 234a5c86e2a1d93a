import ForbiddenHosts.Proofs.Url.Hosts

/-!
# Authorities in normal form

The authority of a special URL comes out of reading in **normal form**: the user name and the
password are encoded, an empty password is none, the host is in normal form, and the port is none or
a number of sixteen bits other than the one that the scheme implies.  The text of such an authority
is read back as that authority.
-/
namespace ForbiddenHosts.Url

variable {scheme : String} {text rest user : List Char} {a : Authority} {more : Bool}

/-- The schemes of servers are special. -/
theorem isSpecial_of_defaultPort? (h : (defaultPort? scheme).isSome) : isSpecial scheme = true := by
  rw [isSpecial, h]
  rfl

/-! ### User name and password -/

/-- What stands before the `@` of an authority, if there is one. -/
def Authority.user? (a : Authority) : Option (List Char) :=
  match a.password with
  | some password => some (a.username.toList ++ ':' :: password.toList)
  | none => if a.username.toList = [] then none else some a.username.toList

/-- What stands behind the host. -/
def portText : Option Nat → List Char
  | none => []
  | some port => ':' :: Nat.toDigits 10 port

theorem Authority.text_eq (a : Authority) :
    a.text = (match a.user? with | none => [] | some user => user ++ ['@']) ++
      (a.host.text ++ portText a.port) := by
  rw [Authority.text, Authority.user?]
  cases a.password with
  | none => cases a.username.toList <;> cases a.port <;> simp [portText]
  | some password => cases a.port <;> simp [portText]

theorem cutUser_of_not_mem (h : '@' ∉ text) : cutUser text = (none, text) := by
  rw [cutUser, cutAt_of_not_mem (by simpa using h)]

theorem cutUser_append (h : '@' ∉ rest) (user : List Char) :
    cutUser (user ++ ['@'] ++ rest) = (some user, rest) := by
  have hreverse : (user ++ ['@'] ++ rest).reverse = rest.reverse ++ '@' :: user.reverse := by simp
  rw [cutUser, hreverse, cutAt_append (by simpa using h)]
  simp

theorem percentEncode_ne_nil (inSet : Char → Bool) (h : text ≠ []) :
    percentEncode inSet text ≠ [] := by
  obtain ⟨c, text, rfl⟩ := List.exists_cons_of_ne_nil h
  intro hnil
  rw [percentEncode, List.flatMap_cons, List.append_eq_nil_iff] at hnil
  obtain ⟨hfirst, _⟩ := hnil
  split at hfirst
  · -- a character has at least one byte
    have hbytes := String.length_utf8EncodeChar c
    have hsize := Char.utf8Size_pos c
    cases hencoded : String.utf8EncodeChar c with
    | nil =>
      rw [hencoded, List.length_nil] at hbytes
      omega
    | cons byte bytes =>
      rw [hencoded] at hfirst
      cases hfirst
  · cases hfirst

/-- What is read as user name and password. -/
structure UserNormal (username : String) (password : Option String) : Prop where
  username : Encoded inUserSet username.toList
  password : ∀ text, password = some text → Encoded inUserSet text.toList ∧ text.toList ≠ []

theorem normal_readUser (user : List Char) : UserNormal (readUser user).1 (readUser user).2 := by
  rw [readUser]
  generalize cutAt ':' user = cut
  obtain ⟨username, password⟩ := cut
  refine ⟨?_, ?_⟩
  · show Encoded inUserSet (String.toList (String.ofList _))
    rw [String.toList_ofList]
    exact encoded_percentEncode inUserSet_codeChars _
  · intro text htext
    cases password with
    | none => cases htext
    | some password =>
      cases password with
      | nil => cases htext
      | cons c password =>
        cases htext
        rw [String.toList_ofList]
        exact ⟨encoded_percentEncode inUserSet_codeChars _,
          percentEncode_ne_nil _ (List.cons_ne_nil c password)⟩

/-- User name and password are read back. -/
theorem readUser_user? (h : UserNormal a.username a.password) :
    readUser (a.user?.getD []) = (a.username, a.password) := by
  have hcolon : ':' ∉ a.username.toList := (free_user h.username).not_mem (by decide)
  have hencoded : ∀ text : String, Encoded inUserSet text.toList →
      String.ofList (percentEncode inUserSet text.toList) = text := by
    intro text htext
    rw [htext.percentEncode_eq, String.ofList_toList]
  have hname : ∀ username : List Char, username = a.username.toList →
      String.ofList (percentEncode inUserSet username) = a.username := by
    rintro _ rfl
    exact hencoded _ h.username
  rw [Authority.user?]
  cases hpassword : a.password with
  | none =>
    have hread : readUser a.username.toList = (a.username, none) := by
      rw [readUser, cutAt_of_not_mem hcolon]
      simp only [hname _ rfl]
    by_cases hempty : a.username.toList = []
    · rwa [hempty] at hread ⊢
    · simpa [hempty] using hread
  | some password =>
    obtain ⟨hpass, hne⟩ := h.password password hpassword
    obtain ⟨c, others, hcons⟩ := List.exists_cons_of_ne_nil hne
    show readUser (a.username.toList ++ ':' :: password.toList) = _
    rw [readUser, cutAt_append hcolon]
    simp only [hname _ rfl, hcons]
    rw [← hcons, hencoded password hpass]

/-! ### Ports -/

theorem readPort_portText {port : Option Nat} (h : ∀ p, port = some p → p ≤ 65535) :
    readPort ((portText port).drop 1) = .ok (port, []) := by
  cases port with
  | none => rfl
  | some p =>
    have hdigits := isDigit_of_mem_toDigits p
    have htake : (Nat.toDigits 10 p).takeWhile Char.isDigit = Nat.toDigits 10 p :=
      List.takeWhile_eq_self_iff.mpr hdigits
    have hdrop : (Nat.toDigits 10 p).dropWhile Char.isDigit = [] :=
      List.dropWhile_eq_nil_iff.mpr hdigits
    have hvalue : (Nat.toDigits 10 p).foldl (fun n c => n * 10 + (c.toNat - 0x30)) 0 = p :=
      portOf_toDigits p
    have hsmall := h p rfl
    show readPort (Nat.toDigits 10 p) = _
    rw [readPort, htake, hdrop, hvalue]
    simp [Nat.toDigits_ne_nil, hsmall]

theorem le_of_readPort {port : Option Nat} (h : readPort text = .ok (port, rest)) :
    ∀ p, port = some p → p ≤ 65535 := by
  rintro p rfl
  rw [readPort] at h
  split at h
  · cases h
  · rename_i hsmall
    have hpair := Except.ok.inj h
    have hport := congrArg Prod.fst hpair
    simp only at hport
    split at hport
    · cases hport
    · cases hport
      omega

/-! ### The normal form -/

/-- An authority as reading leaves it. -/
structure Authority.Normal (scheme : String) (a : Authority) : Prop where
  user : UserNormal a.username a.password
  host : a.host.Normal
  port : ∀ port, a.port = some port → port ≤ 65535 ∧ some port ≠ defaultPort? scheme

/-- What the reading of the authority of a special URL comes to, if it comes to anything. -/
theorem readAuthority_eq_ok_iff (hspecial : isSpecial scheme = true) :
    readAuthority scheme text more = .ok (a, rest) ↔
      let cut := cutUser text
      let length := hostLength false cut.2
      cut.2.take length ≠ [] ∧ ∃ host port, Host.special (cut.2.take length) = .ok host ∧
        readPort ((cut.2.drop length).drop 1) = .ok (port, rest) ∧
        ⟨(readUser (cut.1.getD [])).1, (readUser (cut.1.getD [])).2, host,
          if port = defaultPort? scheme then none else port⟩ = a := by
  rw [readAuthority]
  obtain ⟨user, place⟩ := cutUser text
  simp only [hspecial]
  by_cases hempty : place.take (hostLength false place) = []
  · by_cases hfirst : user = some [] ∧ place = [] ∧ more = true
    · rw [if_pos hfirst]
      simp [throw, throwThe, MonadExceptOf.throw, bind, Except.bind, hempty]
    · rw [if_neg hfirst, if_pos ⟨trivial, hempty⟩]
      simp [throw, throwThe, MonadExceptOf.throw, bind, Except.bind, hempty]
  · have hfirst : ¬(user = some [] ∧ place = [] ∧ more = true) := by
      rintro ⟨_, rfl, _⟩
      exact hempty rfl
    have hsecond : ¬(True ∧ place.take (hostLength false place) = []) := fun h => hempty h.2
    rw [if_neg hfirst, if_neg hsecond, if_pos trivial]
    cases hhost : Host.special (place.take (hostLength false place)) with
    | error fault => simp [bind, Except.bind]
    | ok host =>
      -- a host that was read is not empty, so neither of the later checks refuses
      have hnonempty := (normal_of_special hhost).not_isEmpty
      cases hport : readPort ((place.drop (hostLength false place)).drop 1) with
      | error fault => simp [bind, Except.bind, hnonempty, -List.drop_drop]
      | ok read =>
        obtain ⟨port, left⟩ := read
        simp [bind, Except.bind, hnonempty, pure, Except.pure, hempty, -List.drop_drop,
          -List.take_eq_nil_iff, and_comm]

/-- **The authority of a special URL is read in normal form.** -/
theorem normal_of_readAuthority (hspecial : isSpecial scheme = true)
    (h : readAuthority scheme text more = .ok (a, rest)) : a.Normal scheme := by
  obtain ⟨_, host, port, hhost, hport, rfl⟩ := (readAuthority_eq_ok_iff hspecial).mp h
  refine ⟨normal_readUser _, normal_of_special hhost, ?_⟩
  intro p hp
  simp only at hp
  split at hp
  · cases hp
  · rename_i hdefault
    rw [hp] at hdefault hport
    exact ⟨le_of_readPort hport p rfl, hdefault⟩

theorem free_portText (port : Option Nat) : Free authorityMarks (portText port) := by
  cases port with
  | none => exact free_nil _
  | some p =>
    have hdigits : Free authorityMarks (Nat.toDigits 10 p) :=
      forall_mem_toDigits (by decide) (by decide)
    exact hdigits.cons (by decide)

/-- **An authority in normal form is read back from its text.** -/
theorem Authority.Normal.readAuthority_text (h : a.Normal scheme)
    (hdefault : (defaultPort? scheme).isSome) (more : Bool) :
    readAuthority scheme a.text more = .ok (a, []) := by
  have hplace : '@' ∉ a.host.text ++ portText a.port :=
    (h.host.free.append (free_portText a.port)).not_mem (by decide)
  have hcut : cutUser a.text = (a.user?, a.host.text ++ portText a.port) := by
    rw [a.text_eq]
    cases a.user? with
    | none => exact cutUser_of_not_mem hplace
    | some user => exact cutUser_append hplace user
  have hlength : hostLength false (a.host.text ++ portText a.port) = a.host.text.length := by
    rw [h.host.hostLength_text]
    cases a.port with
    | none => rfl
    | some port => rw [portText, hostLength, if_pos ⟨rfl, rfl⟩, Nat.add_zero]
  have hport : (if a.port = defaultPort? scheme then none else a.port) = a.port := by
    cases hp : a.port with
    | none => exact ite_self _
    | some port => rw [if_neg (h.port port hp).2]
  refine (readAuthority_eq_ok_iff (isSpecial_of_defaultPort? hdefault)).mpr ?_
  simp only [hcut, hlength, List.take_left, List.drop_left, readUser_user? h.user]
  exact ⟨h.host.text_ne_nil, a.host, a.port, h.host.special_text,
    readPort_portText fun p hp => (h.port p hp).1, by rw [hport]⟩

theorem Authority.Normal.text_ne_nil (h : a.Normal scheme) : a.text ≠ [] := by
  rw [a.text_eq]
  simp [h.host.text_ne_nil]

/-- No mark that ends an authority stands in its text. -/
theorem Authority.Normal.free (h : a.Normal scheme) : Free ['/', '\\', '?', '#'] a.text := by
  have huser : ∀ user, a.user? = some user → Free ['/', '\\', '?', '#'] user := by
    intro user hsome
    have husername : Free ['/', '\\', '?', '#'] a.username.toList :=
      (free_user h.user.username).mono (by decide)
    rw [Authority.user?] at hsome
    cases hpassword : a.password with
    | none =>
      rw [hpassword] at hsome
      obtain ⟨_, hsome⟩ := Option.ite_none_left_eq_some.mp hsome
      cases hsome
      exact husername
    | some password =>
      rw [hpassword] at hsome
      cases hsome
      have hpass : Free ['/', '\\', '?', '#'] password.toList :=
        (free_user (h.user.password password hpassword).1).mono (by decide)
      exact husername.append (hpass.cons (by decide))
  have hplace : Free ['/', '\\', '?', '#'] (a.host.text ++ portText a.port) :=
    (h.host.free.append (free_portText a.port)).mono (by decide)
  rw [a.text_eq]
  cases hsome : a.user? with
  | none => exact hplace
  | some user =>
    have hat : Free ['/', '\\', '?', '#'] ['@'] := (free_nil _).cons (by decide)
    exact ((huser user hsome).append hat).append hplace

end ForbiddenHosts.Url
