import ForbiddenHosts.Proofs.Text.Items
import ForbiddenHosts.Proofs.Url.Numbers

/-!
# IPv4 and IPv6 addresses

Both kinds of addresses are read back from the one spelling in which they are printed.  For an IPv6
address this means that `::` is put back by as many zeros as it stands for; that it stands for the
longest run of them plays no part.
-/
namespace ForbiddenHosts.Url

open Text

variable {n address : Nat} {ns : List Nat} {text digits rest : List Char}

theorem forall_mem_mapM {α β : Type} {f : α → Option β} {p : β → Prop}
    (hf : ∀ a b, f a = some b → p b) : ∀ {as : List α} {bs : List β},
      as.mapM f = some bs → ∀ b ∈ bs, p b
  | [], bs, h => by
    cases h
    nofun
  | a :: as, bs, h => by
    rw [List.mapM_cons] at h
    obtain ⟨b, hb, h⟩ := Option.bind_eq_some_iff.mp h
    obtain ⟨others, hothers, h⟩ := Option.bind_eq_some_iff.mp h
    cases h
    exact List.forall_mem_cons.mpr ⟨hf a b hb, forall_mem_mapM hf hothers⟩

/-! ### IPv4 addresses -/

section Ipv4

theorem ipv4Number?_byte : ∀ byte < 256, ipv4Number? (Nat.toDigits 10 byte) = some byte := by
  decide +kernel

theorem point_not_mem_toDigits (n : Nat) : '.' ∉ Nat.toDigits 10 n := fun hmem =>
  absurd (isDigit_of_mem_toDigits n _ hmem) (by decide)

/-- A byte of an address, counted from the last one. -/
def byteOf (address i : Nat) : Nat := address / Nat.pow 256 i % 256

theorem byteOf_lt (address i : Nat) : byteOf address i < 256 := Nat.mod_lt _ (by decide)

theorem labels_ipv4Text (address : Nat) :
    labels (ipv4Text address) =
      [3, 2, 1, 0].map fun i => Nat.toDigits 10 (byteOf address i) := by
  have hpieces : pieces '.' (ipv4Text address) =
      [3, 2, 1, 0].map fun i => Nat.toDigits 10 (byteOf address i) := by
    rw [pieces_eq_splitOn, ipv4Text]
    simp only [List.cons_append, List.append_assoc, List.splitOn_append_cons_self,
      List.splitOn_eq_singleton (point_not_mem_toDigits _)]
    rfl
  rw [labels, hpieces]
  simp [Nat.toDigits_ne_nil]

theorem endsInNumber_ipv4Text (address : Nat) : endsInNumber (ipv4Text address) = true := by
  have hdigits : (Nat.toDigits 10 (byteOf address 0)).all Char.isDigit = true :=
    List.all_eq_true.mpr (isDigit_of_mem_toDigits _)
  rw [endsInNumber, labels_ipv4Text]
  simp [hdigits, Nat.toDigits_ne_nil]

/-- **An IPv4 address is read back from its text.** -/
theorem ipv4?_ipv4Text (h : address < Nat.pow 256 4) : ipv4? (ipv4Text address) = some address := by
  have hnumbers : ([3, 2, 1, 0].map fun i => Nat.toDigits 10 (byteOf address i)).mapM ipv4Number? =
      some ([3, 2, 1, 0].map (byteOf address)) := by
    simp [ipv4Number?_byte _ (byteOf_lt address _)]
  have hvalue : ((byteOf address 3 * 256 + byteOf address 2) * 256 + byteOf address 1) * 256 +
      byteOf address 0 = address := by
    have hpowers : Nat.pow 256 4 = 4294967296 ∧ Nat.pow 256 3 = 16777216 ∧
        Nat.pow 256 2 = 65536 ∧ Nat.pow 256 1 = 256 ∧ Nat.pow 256 0 = 1 := by decide
    simp only [byteOf, hpowers] at h ⊢
    omega
  rw [ipv4?, labels_ipv4Text, hnumbers, Option.bind_some, ipv4Address?]
  simp [byteOf_lt, hvalue]

theorem foldl_bytes_lt {front : List Nat} {start : Nat} (h : ∀ byte ∈ front, byte < 256) :
    front.foldl (fun n byte => n * 256 + byte) start <
      (start + 1) * Nat.pow 256 front.length := by
  induction front generalizing start with
  | nil =>
    show start < (start + 1) * 1
    omega
  | cons byte front ih =>
    obtain ⟨hbyte, hfront⟩ := List.forall_mem_cons.mp h
    have hpower : Nat.pow 256 (front.length + 1) = 256 * Nat.pow 256 front.length :=
      Nat.mul_comm _ _
    calc front.foldl (fun n byte => n * 256 + byte) (start * 256 + byte)
        < (start * 256 + byte + 1) * Nat.pow 256 front.length := ih hfront
      _ ≤ (start + 1) * 256 * Nat.pow 256 front.length := Nat.mul_le_mul_right _ (by omega)
      _ = (start + 1) * Nat.pow 256 (front.length + 1) := by
        rw [hpower, Nat.mul_assoc]

theorem lt_of_ipv4Address? {numbers : List Nat} (h : ipv4Address? numbers = some address) :
    address < Nat.pow 256 4 := by
  rw [ipv4Address?] at h
  split at h
  · cases h
  · rename_i last _
    simp only at h
    split at h
    · rename_i hbounds
      obtain ⟨hlength, hfront, hlast⟩ := hbounds
      cases h
      have hbytes : ∀ byte ∈ numbers.dropLast, byte < 256 := by
        simpa using hfront
      have hhigh : numbers.dropLast.foldl (fun n byte => n * 256 + byte) 0 <
          (0 + 1) * 256 ^ numbers.dropLast.length := foldl_bytes_lt hbytes
      rw [Nat.zero_add, Nat.one_mul] at hhigh
      have hsplit : 256 ^ numbers.dropLast.length * 256 ^ (4 - numbers.dropLast.length) =
          256 ^ 4 := by
        rw [← Nat.pow_add]
        congr 1
        omega
      have hstep := Nat.mul_le_mul_right (256 ^ (4 - numbers.dropLast.length)) hhigh
      rw [Nat.succ_mul, hsplit] at hstep
      have hlow : last < 256 ^ (4 - numbers.dropLast.length) := hlast
      show _ * 256 ^ (4 - numbers.dropLast.length) + last < 256 ^ 4
      omega
    · cases h

theorem lt_of_ipv4? (h : ipv4? text = some address) : address < Nat.pow 256 4 := by
  obtain ⟨numbers, _, haddress⟩ := Option.bind_eq_some_iff.mp h
  exact lt_of_ipv4Address? haddress

end Ipv4

/-! ### IPv6 addresses -/

section Ipv6

/-- The pieces of an IPv6 address are numbers of sixteen bits. -/
def Sixteen (ns : List Nat) : Prop := ∀ n ∈ ns, n < 65536

theorem Sixteen.take (h : Sixteen ns) (count : Nat) : Sixteen (ns.take count) :=
  fun n hn => h n (List.mem_of_mem_take hn)

theorem Sixteen.drop (h : Sixteen ns) (count : Nat) : Sixteen (ns.drop count) :=
  fun n hn => h n (List.mem_of_mem_drop hn)

theorem ipv6Piece?_toDigits (h : n < 65536) : ipv6Piece? (Nat.toDigits 16 n) = some n := by
  have hlength : (Nat.toDigits 16 n).length ≤ 4 :=
    (Nat.length_toDigits_le_iff (by decide) (by decide)).mpr h
  have hempty :
      ((Nat.toDigits 16 n).isEmpty || decide (4 < (Nat.toDigits 16 n).length)) = false := by
    simp [Nat.toDigits_ne_nil, hlength]
  rw [ipv6Piece?, hempty]
  exact numberIn?_toDigits (by decide) (by decide) n

theorem not_mem_toDigits {mark : Char} (hmark : ∀ d < 16, mark ≠ Nat.digitChar d) (n : Nat) :
    mark ∉ Nat.toDigits 16 n := by
  intro hmem
  obtain ⟨d, hd, heq⟩ := mem_toDigits (by decide) hmem
  exact hmark d hd heq

theorem colon_not_mem_toDigits (n : Nat) : ':' ∉ Nat.toDigits 16 n :=
  not_mem_toDigits (by decide) n

theorem ipv6Pieces?_toDigits (embedded : Bool) (h : Sixteen ns) :
    ipv6Pieces? embedded (ns.map (Nat.toDigits 16)) = some ns := by
  induction ns with
  | nil => rfl
  | cons n ns ih =>
    obtain ⟨hn, hns⟩ := List.forall_mem_cons.mp h
    have hpiece := ipv6Piece?_toDigits hn
    cases ns with
    | nil =>
      have hpoint : '.' ∉ Nat.toDigits 16 n := not_mem_toDigits (by decide) n
      have hdecimal : (Nat.toDigits 16 n).contains '.' = false := by
        simpa using hpoint
      show ipv6Pieces? embedded [Nat.toDigits 16 n] = _
      rw [ipv6Pieces?, hdecimal, Bool.and_false, hpiece]
      rfl
    | cons m ns =>
      have hothers := ih hns
      show ipv6Pieces? embedded (Nat.toDigits 16 n :: Nat.toDigits 16 m :: ns.map _) = _
      rw [ipv6Pieces?]
      · rw [hpiece]
        show (ipv6Pieces? embedded ((m :: ns).map (Nat.toDigits 16))).bind _ = _
        rw [hothers]
        rfl
      · nofun

theorem ipv6Join_cons_cons (n m : Nat) (ns : List Nat) :
    ipv6Join (n :: m :: ns) = Nat.toDigits 16 n ++ ':' :: ipv6Join (m :: ns) := by
  simp [ipv6Join]

theorem ipv6Join_ne_nil (h : ns ≠ []) : ipv6Join ns ≠ [] := by
  match ns, h with
  | [n], _ => simp [ipv6Join, Nat.toDigits_ne_nil]
  | n :: m :: ns, _ => simp [ipv6Join_cons_cons]

/-- **Pieces are read back from their text**, on either side of `::` or without it. -/
theorem ipv6Side?_ipv6Join (embedded : Bool) (h : Sixteen ns) :
    ipv6Side? embedded (ipv6Join ns) = some ns := by
  by_cases hnil : ns = []
  · rw [hnil]
    rfl
  · have hpieces : pieces ':' (ipv6Join ns) = ns.map (Nat.toDigits 16) := by
      rw [pieces_eq_splitOn, ipv6Join]
      refine List.splitOn_intercalate _ ?_ (by simpa using hnil)
      intro piece hpiece
      obtain ⟨n, _, rfl⟩ := List.mem_map.mp hpiece
      exact colon_not_mem_toDigits n
    have hempty : (ipv6Join ns).isEmpty = false := by
      simpa using ipv6Join_ne_nil hnil
    rw [ipv6Side?, hempty, hpieces]
    exact ipv6Pieces?_toDigits embedded h

theorem cutDoubleColon_append {piece : List Char} (h : ':' ∉ piece) (rest : List Char) :
    cutDoubleColon (piece ++ rest) =
      (cutDoubleColon rest).map fun cut => (piece ++ cut.1, cut.2) := by
  induction piece with
  | nil => simp
  | cons c piece ih =>
    rw [List.mem_cons, not_or] at h
    rw [List.cons_append, cutDoubleColon, ih h.2, Option.map_map]
    · rfl
    · rintro _ rfl _
      exact h.1 rfl

theorem cutDoubleColon_colon {c : Char} (h : c ≠ ':') (rest : List Char) :
    cutDoubleColon (':' :: c :: rest) =
      (cutDoubleColon (c :: rest)).map fun cut => (':' :: cut.1, cut.2) := by
  rw [cutDoubleColon]
  rintro _ _ hcons
  exact h (List.cons.inj hcons).1

/-- No `::` stands between the pieces, so the first one is looked for behind them. -/
theorem cutDoubleColon_ipv6Join (ns : List Nat) (rest : List Char) :
    cutDoubleColon (ipv6Join ns ++ rest) =
      (cutDoubleColon rest).map fun cut => (ipv6Join ns ++ cut.1, cut.2) := by
  induction ns with
  | nil =>
    show cutDoubleColon rest = _
    simp [ipv6Join]
  | cons n ns ih =>
    cases ns with
    | nil =>
      have hjoin : ipv6Join [n] = Nat.toDigits 16 n := by simp [ipv6Join]
      rw [hjoin, cutDoubleColon_append (colon_not_mem_toDigits n)]
    | cons m ns =>
      -- after the colon stands a digit
      obtain ⟨c, text, htext⟩ := List.exists_cons_of_ne_nil
        (ipv6Join_ne_nil (List.cons_ne_nil m ns))
      have hc : c ≠ ':' := by
        have hdigits : ∃ tail, ipv6Join (m :: ns) = Nat.toDigits 16 m ++ tail := by
          cases ns with
          | nil => exact ⟨[], by simp [ipv6Join]⟩
          | cons k ns => exact ⟨_, ipv6Join_cons_cons m k ns⟩
        obtain ⟨tail, hdigits⟩ := hdigits
        obtain ⟨d, digits, hd⟩ :=
          List.exists_cons_of_ne_nil (Nat.toDigits_ne_nil (n := m) (b := 16))
        rw [htext, hd] at hdigits
        rw [(List.cons.inj hdigits).1]
        rintro rfl
        exact colon_not_mem_toDigits m (hd ▸ List.mem_cons_self)
      rw [ipv6Join_cons_cons, List.append_assoc, cutDoubleColon_append (colon_not_mem_toDigits n),
        List.cons_append, htext, List.cons_append, cutDoubleColon_colon hc, ← List.cons_append,
        ← htext, ih, Option.map_map, Option.map_map]
      simp [Function.comp_def]

/-- A run of zeros that is looked for is one. -/
theorem longestZeros_spec (start : Nat) (ns : List Nat) :
    ∃ place, (longestZeros start ns).1 = start + place ∧
      ns = ns.take place ++ (List.replicate (longestZeros start ns).2 0 ++
        ns.drop (place + (longestZeros start ns).2)) := by
  induction ns generalizing start with
  | nil => exact ⟨0, rfl, rfl⟩
  | cons n ns ih =>
    rw [longestZeros]
    split
    · refine ⟨0, rfl, ?_⟩
      have hzeros : (n :: ns).takeWhile (· == 0) =
          List.replicate (zerosAtHead (n :: ns)) 0 := by
        refine List.eq_replicate_iff.mpr ⟨rfl, ?_⟩
        intro m hm
        simpa using List.mem_takeWhile_imp hm
      have hrest : (n :: ns).drop (zerosAtHead (n :: ns)) = (n :: ns).dropWhile (· == 0) := by
        have hleft : ((n :: ns).takeWhile (· == 0) ++ (n :: ns).dropWhile (· == 0)).drop
            ((n :: ns).takeWhile (· == 0)).length = (n :: ns).dropWhile (· == 0) := List.drop_left
        rwa [List.takeWhile_append_dropWhile] at hleft
      show n :: ns = List.replicate (zerosAtHead (n :: ns)) 0 ++
        (n :: ns).drop (0 + zerosAtHead (n :: ns))
      rw [Nat.zero_add, hrest, ← hzeros, List.takeWhile_append_dropWhile]
    · obtain ⟨place, hplace, hns⟩ := ih (start + 1)
      refine ⟨place + 1, by rw [hplace]; omega, ?_⟩
      rw [List.take_succ_cons, List.cons_append, Nat.add_right_comm, List.drop_succ_cons, ← hns]

/-- **An IPv6 address is read back from its text.** -/
theorem ipv6?_ipv6Text (hlength : ns.length = 8) (h : Sixteen ns) :
    ipv6? (ipv6Text ns) = some ns := by
  obtain ⟨place, hplace, hns⟩ := longestZeros_spec 0 ns
  rw [Nat.zero_add] at hplace
  rw [ipv6Text]
  generalize longestZeros 0 ns = run at hplace hns ⊢
  obtain ⟨start, length⟩ := run
  simp only at hplace hns ⊢
  subst hplace
  split
  · -- all eight pieces are written
    have hcut : cutDoubleColon (ipv6Join ns) = none := by
      have happend := cutDoubleColon_ipv6Join ns []
      rwa [List.append_nil] at happend
    have hside := ipv6Side?_ipv6Join true h
    have hne : ns ≠ [] := by
      rintro rfl
      cases hlength
    have hempty : (ipv6Join ns).isEmpty = false := by
      simpa using ipv6Join_ne_nil hne
    rw [ipv6Side?, hempty] at hside
    have hpieces : ipv6Pieces? true (pieces ':' (ipv6Join ns)) = some ns := hside
    rw [ipv6?, hcut]
    simp only [hpieces, Option.bind_some]
    rw [if_pos hlength]
  · -- the pieces before and behind the zeros are written
    have hcut : cutDoubleColon (ipv6Join (ns.take start) ++ [':', ':'] ++
        ipv6Join (ns.drop (start + length))) =
          some (ipv6Join (ns.take start), ipv6Join (ns.drop (start + length))) := by
      rw [List.append_assoc, cutDoubleColon_ipv6Join]
      simp [cutDoubleColon]
    have hlengths := congrArg List.length hns
    rw [List.length_append, List.length_append, List.length_replicate] at hlengths
    have hcount : 8 - ((ns.take start).length + (ns.drop (start + length)).length) = length := by
      omega
    rw [ipv6?, hcut]
    simp only [ipv6Side?_ipv6Join false (h.take start),
      ipv6Side?_ipv6Join true (h.drop (start + length))]
    show (if _ then some _ else none) = _
    rw [if_pos (by omega), hcount, List.append_assoc, ← hns]

/-! What is read as an IPv6 address has eight pieces of sixteen bits. -/

theorem lt_of_ipv6Piece? (h : ipv6Piece? digits = some n) : n < 65536 := by
  rw [ipv6Piece?] at h
  split at h
  · cases h
  · rename_i hdigits
    have hlength : digits.length ≤ 4 := by
      simp only [Bool.or_eq_true, decide_eq_true_eq, not_or] at hdigits
      omega
    calc n < 16 ^ digits.length := lt_of_numberIn? h
      _ ≤ 16 ^ 4 := Nat.pow_le_pow_right (by decide) hlength

theorem lt_of_ipv6Byte? (h : ipv6Byte? digits = some n) : n < 256 := by
  rw [ipv6Byte?] at h
  split at h
  · cases h
  · obtain ⟨m, _, hm⟩ := Option.bind_eq_some_iff.mp h
    split at hm
    · cases hm
      assumption
    · cases hm

theorem sixteen_embeddedIpv4? (h : embeddedIpv4? text = some ns) : Sixteen ns := by
  rw [embeddedIpv4?] at h
  split at h
  · rename_i a b c d hbytes
    have hsmall := forall_mem_mapM (p := (· < 256)) (fun _ _ => lt_of_ipv6Byte?) hbytes
    simp only [List.forall_mem_cons] at hsmall
    cases h
    intro n hn
    simp only [List.mem_cons, List.not_mem_nil, or_false] at hn
    omega
  · cases h

theorem sixteen_ipv6Pieces? (embedded : Bool) {texts : List (List Char)}
    (h : ipv6Pieces? embedded texts = some ns) : Sixteen ns := by
  induction texts generalizing ns with
  | nil =>
    cases h
    nofun
  | cons piece texts ih =>
    cases texts with
    | nil =>
      rw [ipv6Pieces?] at h
      split at h
      · exact sixteen_embeddedIpv4? h
      · obtain ⟨n, hn, rfl⟩ := Option.map_eq_some_iff.mp h
        intro m hm
        rw [List.mem_singleton.mp hm]
        exact lt_of_ipv6Piece? hn
    | cons other texts =>
      rw [ipv6Pieces?] at h
      · obtain ⟨n, hn, h⟩ := Option.bind_eq_some_iff.mp h
        obtain ⟨others, hothers, h⟩ := Option.bind_eq_some_iff.mp h
        cases h
        exact List.forall_mem_cons.mpr ⟨lt_of_ipv6Piece? hn, ih hothers⟩
      · nofun

theorem sixteen_ipv6Side? (embedded : Bool) (h : ipv6Side? embedded text = some ns) :
    Sixteen ns := by
  rw [ipv6Side?] at h
  split at h
  · cases h
    nofun
  · exact sixteen_ipv6Pieces? embedded h

theorem eight_sixteen_of_ipv6? (h : ipv6? text = some ns) : ns.length = 8 ∧ Sixteen ns := by
  rw [ipv6?] at h
  split at h
  · obtain ⟨read, hread, h⟩ := Option.bind_eq_some_iff.mp h
    split at h
    · rename_i hlength
      cases h
      exact ⟨hlength, sixteen_ipv6Pieces? true hread⟩
    · cases h
  · obtain ⟨before, hbefore, h⟩ := Option.bind_eq_some_iff.mp h
    obtain ⟨after, hafter, h⟩ := Option.bind_eq_some_iff.mp h
    split at h
    · cases h
      refine ⟨?_, ?_⟩
      · simp only [List.length_append, List.length_replicate]
        omega
      · intro n hn
        simp only [List.mem_append, List.mem_replicate] at hn
        rcases hn with (hn | ⟨_, rfl⟩) | hn
        · exact sixteen_ipv6Side? false hbefore n hn
        · decide
        · exact sixteen_ipv6Side? true hafter n hn
    · cases h

end Ipv6

end ForbiddenHosts.Url
