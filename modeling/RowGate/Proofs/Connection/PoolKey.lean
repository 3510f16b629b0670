import Mathlib
import RowGate.Connection.Config
import RowGate.Json.Reader
/-!
# What a pool key tells apart

Two connections with one pool key agree on every part of the key text when no part holds `|` and
no option name holds `=`. The parts are joined unescaped and the database and user trimmed, so
`a|b`/`c` and `a`/`b|c` as database and user share a key, and so do `shop` and ` shop`.
-/

namespace RowGate.Hash

/-- The number that hex digits spell after `acc`, most significant digit first. -/
def readHex (acc : Nat) (cs : List Char) : Nat :=
  cs.foldl (fun n c => 16 * n + (Json.hexDigit? c).getD 0) acc

theorem readHex_append (acc : Nat) (xs ys : List Char) :
    readHex acc (xs ++ ys) = readHex (readHex acc xs) ys := by
  simp [readHex, List.foldl_append]

theorem hexDigit_digitChar : ∀ d < 16, Json.hexDigit? d.digitChar = some d := by decide

theorem readHex_digitChar (acc : Nat) {d : Nat} (hd : d < 16) :
    readHex acc [d.digitChar] = 16 * acc + d := by
  simp [readHex, hexDigit_digitChar d hd]

theorem readHex_toDigits (n : Nat) : readHex 0 (Nat.toDigits 16 n) = n := by
  induction n using Nat.base_induction 16 (by decide) with
  | single m hm => simpa [Nat.toDigits_of_lt_base hm] using readHex_digitChar 0 hm
  | digit m k hk hm ih =>
    rw [← Nat.toDigits_append_toDigits (by decide) hm hk, readHex_append, ih,
      Nat.toDigits_of_lt_base hk, readHex_digitChar m hk]

theorem readHex_zeros (k : Nat) (cs : List Char) :
    readHex 0 (List.replicate k '0' ++ cs) = readHex 0 cs := by
  have hz : readHex 0 (List.replicate k '0') = 0 := by
    induction k with
    | zero => rfl
    | succ k ih =>
      rw [List.replicate_succ', readHex_append, ih]
      exact readHex_digitChar 0 (d := 0) (by decide)
  rw [readHex_append, hz]

theorem hexText_injective {m n : Nat} (h : hexText m = hexText n) : m = n := by
  have hl := congrArg (fun s => readHex 0 s.toList) h
  simpa [hexText, readHex_toDigits] using hl

theorem hexDigit_isSome_of_mem_hexText {n : Nat} {c : Char} (h : c ∈ (hexText n).toList) :
    (Json.hexDigit? c).isSome := by
  rw [hexText, String.toList_ofList] at h
  induction n using Nat.base_induction 16 (by decide) with
  | single m hm =>
    rw [Nat.toDigits_of_lt_base hm, List.mem_singleton] at h
    simp [h, hexDigit_digitChar m hm]
  | digit m k hk hm ih =>
    rw [← Nat.toDigits_append_toDigits (by decide) hm hk, List.mem_append,
      Nat.toDigits_of_lt_base hk, List.mem_singleton] at h
    rcases h with h | rfl
    · exact ih h
    · simp [hexDigit_digitChar k hk]

end RowGate.Hash

namespace RowGate.Text

theorem nat_repr_injective {m n : Nat} (h : m.repr = n.repr) : m = n := by
  have hd := congrArg (fun s => Nat.ofDigitChars 10 s.toList 0) h
  simpa [Nat.toList_repr] using hd

theorem minus_not_mem_repr (n : Nat) : '-' ∉ n.repr.toList := fun h =>
  absurd (Nat.isDigit_of_mem_toDigits (by decide) (by decide) (Nat.toList_repr ▸ h)) (by decide)

theorem int_toString_injective {a b : Int} (h : toString a = toString b) : a = b := by
  change Int.repr a = Int.repr b at h
  cases a with
  | ofNat m =>
    cases b with
    | ofNat n => exact congrArg Int.ofNat (nat_repr_injective h)
    | negSucc n =>
      refine absurd ?_ (minus_not_mem_repr m)
      rw [show Nat.repr m = Int.repr (.negSucc n) from h, Int.repr]
      simp
  | negSucc m =>
    cases b with
    | ofNat n =>
      refine absurd ?_ (minus_not_mem_repr n)
      rw [show Nat.repr n = Int.repr (.negSucc m) from h.symm, Int.repr]
      simp
    | negSucc n =>
      simp only [Int.repr] at h
      have hd := congrArg (fun s => Nat.ofDigitChars 10 (s.toList.drop 1) 0) h
      simp only [String.toList_append, Nat.toList_repr] at hd
      simpa using hd

end RowGate.Text

namespace RowGate.Connection

theorem length_hexText_le (n : UInt64) : (Hash.hexText n.toNat).length ≤ 16 := by
  rw [Hash.hexText, String.length_ofList]
  exact Nat.toDigits_length 16 _ 16 (by decide) (by simpa using n.toNat_lt)

theorem length_hex16 (n : UInt64) : (hex16 n).length = 16 := by
  have := length_hexText_le n
  simp only [hex16, String.length_append, String.length_ofList, List.length_replicate]
  omega

theorem hex16_injective {m n : UInt64} (h : hex16 m = hex16 n) : m = n := by
  have hl := congrArg (fun s => Hash.readHex 0 s.toList) h
  simp only [hex16, String.toList_append, String.toList_ofList, Hash.readHex_zeros,
    Hash.hexText, Hash.readHex_toDigits] at hl
  exact UInt64.toNat_inj.mp hl

theorem fingerprint_eq_iff {a b : Config} :
    a.fingerprint = b.fingerprint ↔
      a.type.lowerCase = b.type.lowerCase ∧
        Hash.xxh64String a.identity = Hash.xxh64String b.identity := by
  constructor
  · intro h
    have hl := congrArg String.toList h
    simp only [Config.fingerprint, String.toList_append] at hl
    -- the hex digits are sixteen on both sides, so the type is what stands before them
    have hlen : (hex16 (Hash.xxh64String a.identity)).toList.length =
        (hex16 (Hash.xxh64String b.identity)).toList.length := by
      rw [String.length_toList, String.length_toList, length_hex16, length_hex16]
    obtain ⟨hpre, hhex⟩ := List.append_inj' hl hlen
    exact ⟨String.toList_inj.mp (List.append_cancel_right hpre),
      hex16_injective (String.toList_inj.mp hhex)⟩
  · rintro ⟨ht, hh⟩
    simp [Config.fingerprint, ht, hh]

/-- The parts of a connection's key text in order: type, host, port, database, user, password
hash and TLS flag, then each option as `name=value` in name order. -/
def Config.keyParts (c : Config) : List String :=
  [(Text.trim c.type).lowerCase, (Text.trim c.host).lowerCase, toString c.port,
      Text.trim c.database, Text.trim c.user, Hash.hexText (Hash.xxh64String c.password).toNat,
      if c.tls then "true" else "false"] ++
    (sortByKey c.options).map fun (k, v) => k ++ "=" ++ v

/-- Whether the parts of a connection's key text are told apart: none of its type, host,
database and user (as the key holds them) and option names and values holds `|`, and no option
name holds `=`. -/
def Config.Separable (c : Config) : Prop :=
  '|' ∉ (Text.trim c.type).lowerCase.toList ∧ '|' ∉ (Text.trim c.host).lowerCase.toList ∧
    '|' ∉ (Text.trim c.database).toList ∧ '|' ∉ (Text.trim c.user).toList ∧
    ∀ o ∈ c.options, '|' ∉ o.1.toList ∧ '=' ∉ o.1.toList ∧ '|' ∉ o.2.toList

instance (c : Config) : Decidable c.Separable :=
  inferInstanceAs (Decidable (_ ∧ _ ∧ _ ∧ _ ∧ _))

theorem join_map_sep (sep : String) : ∀ {ys : List String}, ys ≠ [] →
    String.join (ys.map (sep ++ ·)) = sep ++ sep.intercalate ys
  | [y], _ => by simp
  | y :: z :: zs, _ => by
    rw [List.map_cons, String.join_cons, join_map_sep sep (List.cons_ne_nil z zs),
      String.intercalate_cons_cons]
    simp [String.append_assoc]

theorem identity_eq_intercalate (c : Config) : c.identity = "|".intercalate c.keyParts := by
  rw [Config.identity, Config.keyParts]
  cases hopts : sortByKey c.options with
  | nil => simp
  | cons o os =>
    rw [String.intercalate_append_of_ne_nil (by simp) (by simp), String.append_assoc,
      ← join_map_sep "|" (by simp)]
    simp [String.append_assoc, Function.comp_def]

theorem bar_not_mem_toString_int (n : Int) : '|' ∉ (toString n).toList := by
  change '|' ∉ (Int.repr n).toList
  have hdigits (m : Nat) : '|' ∉ m.repr.toList := fun h =>
    absurd (Nat.isDigit_of_mem_toDigits (by decide) (by decide) (Nat.toList_repr ▸ h)) (by decide)
  cases n with
  | ofNat m => exact hdigits m
  | negSucc m => simpa [Int.repr] using hdigits (m + 1)

theorem bar_not_mem_hexText (n : Nat) : '|' ∉ (Hash.hexText n).toList := fun h =>
  absurd (Hash.hexDigit_isSome_of_mem_hexText h) (by decide)

theorem bar_not_mem_keyParts {c : Config} (h : c.Separable) : ∀ p ∈ c.keyParts, '|' ∉ p.toList := by
  obtain ⟨ht, hh, hd, hu, ho⟩ := h
  intro p hp
  simp only [Config.keyParts, List.mem_append, List.mem_cons, List.mem_map, List.not_mem_nil,
    or_false] at hp
  rcases hp with (rfl | rfl | rfl | rfl | rfl | rfl | rfl) | ⟨⟨k, v⟩, hkv, rfl⟩
  · exact ht
  · exact hh
  · exact bar_not_mem_toString_int c.port
  · exact hd
  · exact hu
  · exact bar_not_mem_hexText _
  · split <;> decide
  · obtain ⟨hk, -, hv⟩ := ho (k, v) ((List.mergeSort_perm _ _).mem_iff.mp hkv)
    simp_all

theorem keyParts_eq_of_identity_eq {a b : Config} (ha : a.Separable) (hb : b.Separable)
    (h : a.identity = b.identity) : a.keyParts = b.keyParts := by
  have hl := congrArg (fun s => s.toList.splitOn '|') h
  have hne (c : Config) : c.keyParts.map String.toList ≠ [] := by simp [Config.keyParts]
  have hsep (c : Config) (hc : c.Separable) : ∀ p ∈ c.keyParts.map String.toList, '|' ∉ p := by
    simpa using bar_not_mem_keyParts hc
  simp only [identity_eq_intercalate, String.toList_intercalate] at hl
  rw [show "|".toList = ['|'] from rfl, List.splitOn_intercalate '|' (hsep a ha) (hne a),
    List.splitOn_intercalate '|' (hsep b hb) (hne b)] at hl
  exact List.map_injective_iff.mpr (fun _ _ => String.toList_inj.mp) hl

theorem append_cons_cancel {c : Char} : ∀ {k k' v v' : List Char}, c ∉ k → c ∉ k' →
    k ++ c :: v = k' ++ c :: v' → k = k' ∧ v = v'
  | [], [], _, _, _, _, h => ⟨rfl, (List.cons.inj h).2⟩
  | [], x :: _, _, _, _, hk', h => absurd (List.mem_cons.mpr (Or.inl (List.cons.inj h).1)) hk'
  | x :: _, [], _, _, hk, _, h => absurd (List.mem_cons.mpr (Or.inl (List.cons.inj h).1.symm)) hk
  | x :: k, y :: k', _, _, hk, hk', h => by
    simp only [List.cons_append, List.cons.injEq] at h
    obtain ⟨hk, hv⟩ := append_cons_cancel (List.not_mem_of_not_mem_cons hk)
      (List.not_mem_of_not_mem_cons hk') h.2
    exact ⟨by rw [h.1, hk], hv⟩

theorem optionTexts_injective : ∀ {xs ys : List (String × String)},
    (∀ o ∈ xs, '=' ∉ o.1.toList) → (∀ o ∈ ys, '=' ∉ o.1.toList) →
    xs.map (fun (k, v) => k ++ "=" ++ v) = ys.map (fun (k, v) => k ++ "=" ++ v) → xs = ys
  | [], [], _, _, _ => rfl
  | [], _ :: _, _, _, h => by simp at h
  | _ :: _, [], _, _, h => by simp at h
  | (k, v) :: xs, (k', v') :: ys, hx, hy, h => by
    simp only [List.map_cons, List.cons.injEq] at h
    have hkv := congrArg String.toList h.1
    simp only [String.toList_append, List.append_assoc, show "=".toList = ['='] from rfl,
      List.singleton_append] at hkv
    have hek : '=' ∉ k.toList := hx (k, v) (by simp)
    have hek' : '=' ∉ k'.toList := hy (k', v') (by simp)
    obtain ⟨hk, hv⟩ := append_cons_cancel hek hek' hkv
    have hrest := optionTexts_injective (fun o ho => hx o (by simp [ho]))
      (fun o ho => hy o (by simp [ho])) h.2
    rw [String.toList_inj.mp hk, String.toList_inj.mp hv, hrest]

/-- What two connections agree on when they share a pool: every part of the key text. The
drivers reach the same host, port and database as the same user with the same password, TLS
setting and options, up to the case and surrounding blanks of the type and host and the
surrounding blanks of the database and user. -/
structure Config.SameTarget (a b : Config) : Prop where
  type : (Text.trim a.type).lowerCase = (Text.trim b.type).lowerCase
  host : (Text.trim a.host).lowerCase = (Text.trim b.host).lowerCase
  port : a.port = b.port
  database : Text.trim a.database = Text.trim b.database
  user : Text.trim a.user = Text.trim b.user
  password : a.password = b.password
  tls : a.tls = b.tls
  options : a.options.Perm b.options

/-- Two separable connections with one pool key agree on every part of the key text, unless
the hash collides on their key texts or on their passwords. -/
theorem agree_of_fingerprint_eq {a b : Config} (ha : a.Separable) (hb : b.Separable)
    (hkey : Hash.xxh64String a.identity = Hash.xxh64String b.identity → a.identity = b.identity)
    (hpw : Hash.xxh64String a.password = Hash.xxh64String b.password → a.password = b.password)
    (h : a.fingerprint = b.fingerprint) : a.SameTarget b := by
  obtain ⟨-, hhash⟩ := fingerprint_eq_iff.mp h
  have hparts := keyParts_eq_of_identity_eq ha hb (hkey hhash)
  simp only [Config.keyParts, List.cons_append, List.cons.injEq] at hparts
  obtain ⟨htype, hhost, hport, hdb, huser, hhex, htls, hopts⟩ := hparts
  -- option names hold no `=`, so the sorted options are the same list
  have hkeys (c : Config) (hc : c.Separable) : ∀ o ∈ sortByKey c.options, '=' ∉ o.1.toList :=
    fun o ho => (hc.2.2.2.2 o ((List.mergeSort_perm _ _).mem_iff.mp ho)).2.1
  have hsorted := optionTexts_injective (hkeys a ha) (hkeys b hb) hopts
  refine ⟨htype, hhost, Text.int_toString_injective hport, hdb, huser,
    hpw (UInt64.toNat_inj.mp (Hash.hexText_injective hhex)), ?_, ?_⟩
  · cases hta : a.tls <;> cases htb : b.tls <;> simp_all
  · have pa : (sortByKey a.options).Perm a.options := List.mergeSort_perm _ _
    have pb : (sortByKey b.options).Perm b.options := List.mergeSort_perm _ _
    rw [hsorted] at pa
    exact pa.symm.trans pb

theorem agree_of_fingerprint_eq_host_blanks :
    Config.fingerprint { host := " db " } = Config.fingerprint { host := "db" } ∧
      Config.SameTarget { host := " db " } { host := "db" } := by
  have hid : Config.identity { host := " db " } = Config.identity { host := "db" } := by
    simp only [Config.identity, show Text.trim " db " = Text.trim "db" by decide]
  have hfp : Config.fingerprint { host := " db " } = Config.fingerprint { host := "db" } :=
    fingerprint_eq_iff.mpr ⟨rfl, congrArg Hash.xxh64String hid⟩
  -- lower-casing maps characters one by one, which `decide` does not see through `String.map`
  have ha : Config.Separable { host := " db " } := by
    simp only [Config.Separable, String.lowerCase, String.toList_map]
    decide
  have hb : Config.Separable { host := "db" } := by
    simp only [Config.Separable, String.lowerCase, String.toList_map]
    decide
  exact ⟨hfp, agree_of_fingerprint_eq ha hb (fun _ => hid) (fun _ => rfl) hfp⟩

/-- The parts of the key text are joined by a bare `|`: database `a|b` with user `c` and database
`a` with user `b|c` give one key text, so the two connections share a pool with no collision of
the hash. -/
theorem fingerprint_confuses_bar_in_parts :
    let a : Config := { type := "postgres", host := "db", database := "a|b", user := "c" }
    let b : Config := { type := "postgres", host := "db", database := "a", user := "b|c" }
    a.identity = b.identity ∧ a.fingerprint = b.fingerprint ∧ a.database ≠ b.database ∧
      a.user ≠ b.user := by
  intro a b
  -- the other parts are the same terms on both sides, so only the two moved bars matter
  have hjoin (t h p x f : String) :
      "|".intercalate [t, h, p, "a|b", "c", x, f] =
        "|".intercalate [t, h, p, "a", "b|c", x, f] := by
    apply String.toList_inj.mp
    simp only [String.toList_intercalate, List.map_cons, List.map_nil]
    rw [show "a|b".toList = ['a', '|', 'b'] by decide,
      show "b|c".toList = ['b', '|', 'c'] by decide,
      show "a".toList = ['a'] by decide, show "c".toList = ['c'] by decide,
      show "|".toList = ['|'] by decide]
    simp [List.intercalate]
  have hid : a.identity = b.identity := by
    simp only [a, b, Config.identity, show Text.trim "a|b" = "a|b" by decide,
      show Text.trim "c" = "c" by decide, show Text.trim "a" = "a" by decide,
      show Text.trim "b|c" = "b|c" by decide, hjoin]
  exact ⟨hid, fingerprint_eq_iff.mpr ⟨rfl, congrArg Hash.xxh64String hid⟩, by decide, by decide⟩

/-- The database's surrounding blanks are no part of the pool key: a connection to `shop` and
one to ` shop`, which the drivers ask for by different names, share a pool. -/
theorem fingerprint_ignores_database_blanks :
    Config.fingerprint { type := "postgres", host := "db", database := "shop" } =
      Config.fingerprint { type := "postgres", host := "db", database := " shop" } ∧
    ("shop" : String) ≠ " shop" := by
  refine ⟨?_, by decide⟩
  simp only [Config.fingerprint, Config.identity,
    show Text.trim " shop" = Text.trim "shop" by decide]

end RowGate.Connection
