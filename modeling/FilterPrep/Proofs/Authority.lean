import FilterPrep.Location
import FilterPrep.Proofs.HostName

/-!
# The origin of an address

An address with two slashes behind its scheme has the origin that its authority gives it. The
authority ends at the first slash behind it, so the origin does not depend on what follows that
slash; and it is not changed by leaving the slash out, as long as there is an origin then
(`originBehind_without_slash`).
-/

namespace FilterPrep.Url

variable {scheme : Text}

/-- What is written from the authority on, in an address with two slashes behind its scheme. -/
def fromAuthority (scheme t : Text) : Text :=
  if isSpecialScheme scheme then t.dropWhile (isSlash true) else t

theorem readOther_slashes (scheme t : Text) :
    readOther scheme ('/' :: '/' :: t) = readHierarchy scheme (fromAuthority scheme t) := by
  unfold readOther fromAuthority
  split
  · rfl
  · rfl

def Authority.originText (scheme : Text) (authority : Authority) : Text :=
  match defaultPort? scheme with
  | some usual => Origin.render ⟨scheme, authority.host, authority.port.getD usual⟩
  | none => "null".toList

theorem parse_slash (t : Text) : parse ('/' :: t) = .error .relativeWithoutBase := by
  have kept : trim ('/' :: t) = '/' :: Text.trimEndBy (·.toNat ≤ 0x20) t := by
    rw [trim, Text.trimBy, List.dropWhile_cons_of_neg (by decide)]
    exact Text.trimEndBy_append_cons (by decide) [] t
  have noScheme : readScheme? ('/' :: Text.trimEndBy (·.toNat ≤ 0x20) t) = none := by
    rw [readScheme?, Text.cutFirst?]
    simp only [Char.reduceEq, if_false]
    cases Text.cutFirst? ':' (Text.trimEndBy (·.toNat ≤ 0x20) t) with
    | none => rfl
    | some cut =>
      have slash : withoutIgnored ('/' :: cut.1) = '/' :: withoutIgnored cut.1 := rfl
      simp [slash]
  rw [parse, kept, noScheme]

theorem parse_segments (list : List Text) :
    parse (Path.segments list).render = .error .relativeWithoutBase := by
  cases list with
  | nil => rfl
  | cons first rest => exact parse_slash _

theorem originText_of_authority {authority : Authority} (list : List Text)
    (query fragment : Option Text) :
    (⟨scheme, some authority, .segments list, query, fragment⟩ : Url).originText =
      authority.originText scheme := by
  have own : (⟨scheme, some authority, .segments list, query, fragment⟩ : Url).origin? =
      (⟨scheme, some authority, .segments list, query, fragment⟩ : Url).ownOrigin? := by
    unfold origin?
    cases (Path.render (.segments list)).length with
    | zero => rfl
    | succ depth =>
      rw [originWithin?]
      split
      · next blob =>
        simp only at blob
        rw [parse_segments, blob]
        rfl
      · rfl
  unfold Url.originText
  rw [own, ownOrigin?, Authority.originText]
  cases defaultPort? scheme <;> rfl

theorem withTail_originText (authority : Authority) (list : List Text) (tail : Text) :
    (withTail scheme (some authority) (.segments list) tail).originText =
      authority.originText scheme := by
  exact originText_of_authority _ _ _
def inAuthority (scheme : Text) (c : Char) : Bool := !endsAuthority (isSpecialScheme scheme) c

/-- The text of the origin of an address, from what is written behind its two slashes. -/
def originBehind (scheme t : Text) : Except ParseError Text :=
  ((readAuthority scheme ((fromAuthority scheme t).takeWhile (inAuthority scheme))
    ((fromAuthority scheme t).dropWhile (inAuthority scheme))).map Prod.fst).map
      (Authority.originText scheme)

theorem readHierarchy_originText (scheme t : Text) :
    (readHierarchy scheme (fromAuthority scheme t)).map Url.originText = originBehind scheme t := by
  have named : (fun c => !endsAuthority (isSpecialScheme scheme) c) = inAuthority scheme := rfl
  unfold readHierarchy originBehind
  simp only [List.span_eq_takeWhile_dropWhile, named]
  cases readAuthority scheme ((fromAuthority scheme t).takeWhile (inAuthority scheme))
      ((fromAuthority scheme t).dropWhile (inAuthority scheme)) with
  | error error => rfl
  | ok read => exact congrArg Except.ok (withTail_originText _ _ _)

/-! ### Authorities that end in a blank -/

theorem readAuthority_at (special : isSpecialScheme scheme = true) (behind : Text) :
    readAuthority scheme ['@'] behind = .error .emptyHost := by
  have user : readUser ['@'] = ([], [], []) := rfl
  have noHost : readHost scheme [] = .error .emptyHost := by simp [readHost, special]
  unfold readAuthority
  rw [user]
  simp only [hostSpan, noHost]
  split
  · rfl
  · rfl

theorem readAuthority_behind {t behind other : Text}
    (same : isSpecialScheme scheme = true ∨ (behind ≠ [] ∧ other ≠ [])) :
    (readAuthority scheme t behind).map Prod.fst = (readAuthority scheme t other).map Prod.fst := by
  by_cases alone : t = ['@']
  · subst alone
    rcases same with special | ⟨follows, follows'⟩
    · rw [readAuthority_at special, readAuthority_at special]
    · simp [readAuthority, follows, follows']
  · simp only [readAuthority, alone, false_and, if_false]
    cases readHost scheme (hostSpan false (readUser t).2.2).1 with
    | error error => rfl
    | ok host =>
      simp only [bind, Except.bind]
      cases portOf scheme host (hostSpan false (readUser t).2.2).2 with
      | error error => rfl
      | ok port =>
        simp only
        split
        · rfl
        · rfl

theorem readUser_concat {c : Char} (notAt : c ≠ '@') (t : Text) :
    (readUser (t ++ [c])).2.2 = (readUser t).2.2 ++ [c] := by
  unfold readUser
  rw [Text.cutLast?_concat notAt]
  cases Text.cutLast? '@' t with
  | none => rfl
  | some cut =>
    simp only [Option.map_some]
    split <;> rfl

theorem append_hostSpan (inside : Bool) (t : Text) :
    (hostSpan inside t).1 ++ (hostSpan inside t).2 = t := by
  induction t generalizing inside with
  | nil => rfl
  | cons c t ih =>
    rw [hostSpan]
    split
    · rfl
    · exact congrArg (c :: ·) (ih _)


theorem hostSpan_behind (inside : Bool) (t : Text) :
    (hostSpan inside t).2 = [] ∨ ∃ rest, (hostSpan inside t).2 = ':' :: rest := by
  induction t generalizing inside with
  | nil => exact .inl rfl
  | cons c t ih =>
    rw [hostSpan]
    split
    · next colon => exact .inr ⟨t, by rw [colon.1]⟩
    · exact ih _

theorem mem_of_mem_readUser {t : Text} {d : Char} (member : d ∈ (readUser t).2.2) : d ∈ t := by
  unfold readUser at member
  split at member
  · exact member
  · next user rest cut =>
    rw [(Text.append_of_cutLast? cut).1]
    split at member
    · exact List.mem_append_right _ (List.mem_cons_of_mem _ member)
    · exact List.mem_append_right _ (List.mem_cons_of_mem _ member)

variable {c : Char} {t : Text}

theorem readPort_blank (blank : c.toNat ≤ 0x20) (inside : ∀ d ∈ t, endsAuthority true d = false)
    (result : Option Nat × Text) : readPort scheme (t ++ [c]) ≠ .ok result := by
  have noDigit : c.isDigit = false :=
    blank_cases (P := fun c => c.isDigit = false) blank (by decide)
  have noEnd : endsAuthority true c = false :=
    blank_cases (P := fun c => endsAuthority true c = false) blank (by decide)
  obtain ⟨d, rest, behind⟩ : ∃ d rest, (t ++ [c]).dropWhile Char.isDigit = d :: rest := by
    rw [← List.ne_nil_iff_exists_cons, Ne, List.dropWhile_eq_nil_iff]
    intro digits
    exact absurd (digits c (by simp)) (by simp [noDigit])
  have member : d ∈ t ++ [c] := (List.dropWhile_suffix _).mem (behind ▸ List.mem_cons_self)
  have goesOn : endsAuthority true d = false := by
    rcases List.mem_append.mp member with before | last
    · exact inside d before
    · rwa [List.mem_singleton.mp last]
  unfold readPort
  simp only [behind, goesOn, Bool.false_eq_true, if_false]
  split <;> nofun


theorem readHost_blank (special : isSpecialScheme scheme = true) (blank : c.toNat ≤ 0x20) (t : Text)
    (host : Host) : readHost scheme (t ++ [c]) ≠ .ok host := by
  simp only [readHost, special, if_true]
  split
  · nofun
  · exact Host.ofDomain_blank blank t host

theorem readAuthority_blank (special : isSpecialScheme scheme = true) (blank : c.toNat ≤ 0x20)
    (inside : ∀ d ∈ t, endsAuthority true d = false) (behind : Text) (result : Authority × Text) :
    readAuthority scheme (t ++ [c]) behind ≠ .ok result := by
  have notAt : c ≠ '@' := blank_cases (P := (· ≠ '@')) blank (by decide)
  have notColon : c ≠ ':' := blank_cases (P := (· ≠ ':')) blank (by decide)
  unfold readAuthority
  simp only [readUser_concat notAt]
  split
  · nofun
  · have whole := append_hostSpan false ((readUser t).2.2 ++ [c])
    -- the blank is part of the port, if there is one, and of the host otherwise
    rcases hostSpan_behind false ((readUser t).2.2 ++ [c]) with none | ⟨rest, port⟩
    · rw [none, List.append_nil] at whole
      rw [whole]
      cases read : readHost scheme ((readUser t).2.2 ++ [c]) with
      | error error => nofun
      | ok host => exact absurd read (readHost_blank special blank _ host)
    · rw [port] at whole ⊢
      cases readHost scheme (hostSpan false ((readUser t).2.2 ++ [c])).1 with
      | error error => nofun
      | ok host =>
        obtain ⟨front, rfl, hostPort⟩ := Text.concat_of_append_cons whole notColon.symm
        have after : ∀ d ∈ front, endsAuthority true d = false := fun d member =>
          inside d (mem_of_mem_readUser (by
            rw [hostPort]
            exact List.mem_append_right _ (List.mem_cons_of_mem _ member)))
        simp only [portOf, bind, Except.bind]
        cases empty : host.isEmpty with
        | true => simp
        | false =>
          cases read : readPort scheme (front ++ [c]) with
          | error error => simp
          | ok result => exact absurd read (readPort_blank blank after result)

/-! ### From the authority to the origin -/

theorem fromAuthority_append {y : Text}
    (host : isSpecialScheme scheme = true → ∃ c ∈ y, isSlash true c = false) (rest : Text) :
    fromAuthority scheme (y ++ rest) = fromAuthority scheme y ++ rest := by
  unfold fromAuthority
  split
  · next special =>
    obtain ⟨c, member, other⟩ := host special
    rw [List.dropWhile_append, if_neg]
    intro empty
    have all := List.dropWhile_eq_nil_iff.mp (List.isEmpty_iff.mp empty) c member
    exact absurd all (by simp [other])
  · rfl

theorem inAuthority_slash (scheme : Text) : inAuthority scheme '/' = false := by
  simp [inAuthority, endsAuthority, isSlash]

theorem takeWhile_slash (z rest : Text) :
    (z ++ '/' :: rest).takeWhile (inAuthority scheme) = z.takeWhile (inAuthority scheme) := by
  rw [List.takeWhile_append]
  split
  · next whole =>
    rw [List.takeWhile_cons_of_neg (by simp [inAuthority_slash]), List.append_nil]
    exact ((List.takeWhile_prefix _).eq_of_length whole).symm
  · rfl

theorem dropWhile_slash_ne_nil (z rest : Text) :
    (z ++ '/' :: rest).dropWhile (inAuthority scheme) ≠ [] := by
  intro none
  have all := List.dropWhile_eq_nil_iff.mp none '/' (by simp)
  exact absurd all (by simp [inAuthority_slash])

theorem originBehind_slash {y : Text}
    (host : isSpecialScheme scheme = true → ∃ c ∈ y, isSlash true c = false) (p q : Text) :
    originBehind scheme (y ++ '/' :: p) = originBehind scheme (y ++ '/' :: q) := by
  unfold originBehind
  rw [fromAuthority_append host, fromAuthority_append host, takeWhile_slash, takeWhile_slash,
    readAuthority_behind (.inr ⟨dropWhile_slash_ne_nil _ _, dropWhile_slash_ne_nil _ _⟩)]

theorem originBehind_no_host (special : isSpecialScheme scheme = true) {y : Text}
    (slashes : ∀ c ∈ y, isSlash true c = true) : originBehind scheme y = .error .emptyHost := by
  have none : fromAuthority scheme y = [] := by
    rw [fromAuthority, if_pos special, List.dropWhile_eq_nil_iff]
    exact slashes
  have noHost : readHost scheme [] = .error .emptyHost := by simp [readHost, special]
  have noAuthority : readAuthority scheme [] [] = .error .emptyHost := by
    have user : readUser [] = ([], [], []) := rfl
    unfold readAuthority
    rw [user]
    simp only [hostSpan, noHost]
    rfl
  rw [originBehind, none, List.takeWhile_nil, List.dropWhile_nil, noAuthority]
  rfl

/-- Schemes that are not special have no origin. -/
theorem originBehind_not_special (plain : isSpecialScheme scheme = false) {y o : Text}
    (origin : originBehind scheme y = .ok o) : o = "null".toList := by
  have noPort : defaultPort? scheme = none := by
    simp only [isSpecialScheme, Bool.or_eq_false_iff] at plain
    simpa using plain.2
  unfold originBehind at origin
  cases read : readAuthority scheme ((fromAuthority scheme y).takeWhile (inAuthority scheme))
      ((fromAuthority scheme y).dropWhile (inAuthority scheme)) with
  | error error =>
    rw [read] at origin
    cases origin
  | ok result =>
    rw [read] at origin
    have same := Except.ok.inj origin
    rw [← same, Authority.originText, noPort]

theorem inAuthority_blank {c : Char} (blank : c.toNat ≤ 0x20) : inAuthority scheme c = true := by
  unfold inAuthority
  cases isSpecialScheme scheme with
  | true => exact blank_cases (P := fun c => (!endsAuthority true c) = true) blank (by decide)
  | false => exact blank_cases (P := fun c => (!endsAuthority false c) = true) blank (by decide)

theorem readAuthority_takeWhile_blank (special : isSpecialScheme scheme = true) {t blanks : Text}
    (nonempty : blanks ≠ []) (blank : ∀ c ∈ blanks, c.toNat ≤ 0x20)
    (inside : ∀ c ∈ t, inAuthority scheme c = true) (behind : Text)
    (result : Authority × Text) :
    readAuthority scheme ((t ++ blanks).takeWhile (inAuthority scheme)) behind ≠ .ok result := by
  obtain ⟨front, c, rfl⟩ := (List.eq_nil_or_concat blanks).resolve_left nonempty
  have all : ∀ d ∈ t ++ front.concat c, inAuthority scheme d = true := by
    intro d member
    rcases List.mem_append.mp member with before | behind
    · exact inside d before
    · exact inAuthority_blank (blank d behind)
  rw [List.takeWhile_eq_self_iff.mpr all]
  rw [List.concat_eq_append, ← List.append_assoc] at all ⊢
  refine readAuthority_blank special (blank c (by simp)) ?_ behind result
  intro d member
  simpa [inAuthority, special] using all d (List.mem_append_left _ member)

/-- A blank between authority and slash is not accepted, so that nothing is lost without slash. -/
theorem originBehind_without_slash (special : isSpecialScheme scheme = true) {y blanks o o' : Text}
    (blank : ∀ c ∈ blanks, c.toNat ≤ 0x20)
    (origin : originBehind scheme (y ++ (blanks ++ ['/'])) = .ok o)
    (without : originBehind scheme y = .ok o') : o' = o := by
  have host : isSpecialScheme scheme = true → ∃ c ∈ y, isSlash true c = false := by
    intro _
    by_contra none
    have slashes : ∀ c ∈ y, isSlash true c = true := by simpa using none
    rw [originBehind_no_host special slashes] at without
    cases without
  have read := origin
  unfold originBehind at read without
  rw [fromAuthority_append host, ← List.append_assoc, takeWhile_slash] at read
  have same : (fromAuthority scheme y ++ blanks).takeWhile (inAuthority scheme) =
      (fromAuthority scheme y).takeWhile (inAuthority scheme) := by
    by_cases empty : blanks = []
    · rw [empty, List.append_nil]
    · rw [List.takeWhile_append]
      split
      · next whole =>
        have all := (List.takeWhile_prefix (inAuthority scheme)).eq_of_length whole
        have inside := List.takeWhile_eq_self_iff.mp all
        exfalso
        cases reading : readAuthority scheme
            ((fromAuthority scheme y ++ blanks).takeWhile (inAuthority scheme)) _ with
        | error error =>
          rw [reading] at read
          cases read
        | ok result =>
          exact readAuthority_takeWhile_blank special empty blank inside _ result reading
      · rfl
  rw [same, readAuthority_behind (.inl special), without] at read
  exact Except.ok.inj read

end FilterPrep.Url
