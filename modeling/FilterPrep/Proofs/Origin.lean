import FilterPrep.Proofs.Address
import FilterPrep.Proofs.Outcome

/-!
# Targets and the origin of their document

Relative targets are appended to the directory of the document that names them. As long as that
directory still has the origin of the document (`KeepsOrigin`), everything that the document may
include is there as well (`resolve_of_keepsOrigin`). The directory of an address without a path has
lost the host; and whenever the origin is not kept, some target leads away from it
(`exists_leaves`).
-/

namespace FilterPrep.Location

variable {address target o : Text}

/-- What relative targets are appended to is still remote, and has the origin of the address. -/
def KeepsOrigin (address : Text) : Prop :=
  isRemote (LocalPath.trimSlashes (directory address)) = true ∧
    originOf (LocalPath.trimSlashes (directory address) ++ ['/']) = originOf address

theorem childOrigin?_eq_some (location : Location) (nonempty : directory location.text ≠ []) :
    location.childOrigin? = some (directory location.text) := by
  unfold childOrigin?
  split
  · next empty => exact absurd empty nonempty
  · rfl

theorem originOf_of_checkTarget {directory : Text} (nonempty : directory ≠ [])
    (absolute : isAbsolute target = true)
    (accepted : checkTarget target (some directory) = .ok ()) :
    ∃ theirs, originOf target = .ok theirs ∧ originOf directory = .ok theirs := by
  cases directory with
  | nil => exact absurd rfl nonempty
  | cons c rest =>
    simp only [checkTarget, absolute, if_true] at accepted
    obtain ⟨first, theirs, accepted⟩ := Except.bind_eq_ok.mp accepted
    obtain ⟨second, ours, accepted⟩ := Except.bind_eq_ok.mp accepted
    by_cases same : first = second
    · exact ⟨first, theirs, by rw [ours, same]⟩
    · simp [same] at accepted

/-- The includes of a document whose address keeps its origin stay there. -/
theorem resolve_of_keepsOrigin (origin : originOf address = .ok o) (keeps : KeepsOrigin address)
    (accepted : checkTarget target (remote address).childOrigin? = .ok ()) :
    ∃ place, resolve target (remote address).childOrigin? = .remote place ∧
      originOf place = .ok o := by
  obtain ⟨remoteBase, same⟩ := keeps
  rw [origin] at same
  obtain ⟨letters, x, scheme, base⟩ := exists_remoteScheme remoteBase same
  obtain ⟨slashes, whole, slash⟩ := Text.trimEndBy_split (· == '/') (directory address)
  rw [LocalPath.trimSlashes] at base
  rw [LocalPath.trimSlashes, base, List.append_assoc] at same
  have host := scheme.hasHost_of_originOf same
  have spelled : directory address = letters ++ ':' :: '/' :: '/' :: (x ++ slashes) := by
    rw [whole, base, List.append_assoc]
    rfl
  have nonempty : directory address ≠ [] := by simp [spelled]
  have isRemote : isRemote (directory address) = true := by rw [spelled]; exact scheme.isRemote _
  have child : (remote address).childOrigin? = some (directory address) :=
    childOrigin?_eq_some _ nonempty
  rw [child] at accepted ⊢
  refine ⟨remoteAddress target (some (directory address)), by simp [resolve, isRemote], ?_⟩
  by_cases absolute : isAbsolute target = true
  · obtain ⟨theirs, found, ours⟩ := originOf_of_checkTarget nonempty absolute accepted
    have unchanged : remoteAddress target (some (directory address)) = target := by
      simp [remoteAddress, absolute]
    rw [unchanged, found]
    rw [spelled] at ours
    cases slashes with
    | nil =>
      rw [List.append_nil] at ours
      rw [scheme.originOf_without_slash same ours]
    | cons c slashes =>
      obtain rfl : c = '/' := by simpa using slash c List.mem_cons_self
      exact ours.symm.trans ((scheme.originOf_append_iff host [] slashes).mp same)
  · have appended : remoteAddress target (some (directory address)) =
        LocalPath.trimSlashes (directory address) ++ '/' :: target := by
      simp [remoteAddress, absolute, isAbsolute_of_isRemote isRemote]
    rw [appended, LocalPath.trimSlashes, base, List.append_assoc]
    exact (scheme.originOf_append_iff host [] target).mp same

/-! ### Addresses that do not keep their origin -/

/-- Whether a target is accepted in the document at an address although it is not on the origin
`o`. -/
def Leaves (o address target : Text) : Prop :=
  checkTarget target (remote address).childOrigin? = .ok () ∧
    ¬∃ place, resolve target (remote address).childOrigin? = .remote place ∧
      originOf place = .ok o

theorem normalizeUrl_of_no_origin (none : ∀ o, originOf address ≠ .ok o) :
    normalizeUrl address = address := by
  unfold normalizeUrl
  cases read : Url.parse address with
  | error error => rfl
  | ok url => exact absurd (originOf_eq_ok_iff.mpr (by rw [read]; rfl)) (none url.originText)

theorem checkTarget_relative (relative : isAbsolute target = false) (origin : Option Text) :
    checkTarget target origin = .ok () := by
  unfold checkTarget
  split
  · simp [relative]
  · rfl

theorem leaves_append (isRemote : isRemote (directory address) = true)
    (relative : isAbsolute target = false)
    (none : ∀ o, originOf (LocalPath.trimSlashes (directory address) ++ '/' :: target) ≠ .ok o) :
    Leaves o address target ∧ (resolve target (remote address).childOrigin?).key =
      LocalPath.trimSlashes (directory address) ++ '/' :: target := by
  have nonempty : directory address ≠ [] := by
    intro empty
    rw [empty] at isRemote
    cases isRemote
  have located : resolve target (remote address).childOrigin? =
      .remote (LocalPath.trimSlashes (directory address) ++ '/' :: target) := by
    have child : (remote address).childOrigin? = some (directory address) :=
      childOrigin?_eq_some _ nonempty
    rw [child]
    simp [resolve, remoteAddress, isRemote, relative, isAbsolute_of_isRemote isRemote]
  refine ⟨⟨checkTarget_relative relative _, ?_⟩, ?_⟩
  · rintro ⟨place, same, onOrigin⟩
    rw [located] at same
    cases same
    exact none o onOrigin
  · rw [located]
    exact normalizeUrl_of_no_origin none

theorem join_rooted (rooted : LocalPath.isRooted target = true) (origin : Option Text) :
    LocalPath.join origin target = target := by
  have kept : LocalPath.stripScheme target = target := by
    cases target with
    | nil => rfl
    | cons c rest =>
      obtain rfl : c = '/' := by simpa [LocalPath.isRooted] using rooted
      refine if_neg fun file => ?_
      have first : ('/' : Char) = 'f' := (List.cons.inj file).1
      exact absurd first (by decide)
  unfold LocalPath.join
  rw [kept]
  split
  · simp [rooted]
  · rfl

/-- A rooted target of a document whose directory is not remote is read from the disk. -/
theorem leaves_rooted (o target : Text) (onDisk : isRemote (directory address) = false)
    (relative : isAbsolute target = false) (rooted : LocalPath.isRooted target = true) :
    Leaves o address target ∧
      resolve target (remote address).childOrigin? = .onDisk target := by
  have noTarget : isRemote target = false := by
    by_contra isRemote
    have absolute := isAbsolute_of_isRemote (Bool.not_eq_false _ ▸ isRemote)
    exact absurd absolute (by simp [relative])
  have noOrigin : (remote address).childOrigin?.any isRemote = false := by
    unfold childOrigin? text
    split
    · rfl
    · exact onDisk
  have located : resolve target (remote address).childOrigin? = .onDisk target := by
    rw [resolve, noTarget, noOrigin, join_rooted rooted]
    rfl
  refine ⟨⟨checkTarget_relative relative _, ?_⟩, located⟩
  rintro ⟨place, same, -⟩
  rw [located] at same
  cases same

/-- The directory of an address without a path does not even have both slashes. -/
theorem isRemote_no_path {letters : Text} (scheme : RemoteScheme letters) :
    isRemote (letters ++ [':', '/']) = false := by
  have noColon : ∀ letters : Text, (∀ c ∈ letters, isSchemeLetter c = true) → ':' ∉ letters :=
    fun letters letter member => absurd (letter _ member) (by decide)
  have noScheme : scheme? (letters ++ [':', '/']) = none := by
    rw [Option.eq_none_iff_forall_ne_some]
    intro other found
    obtain ⟨-, letter, t, same⟩ := scheme?_eq_some_iff.mp found
    have cut := congrArg (Text.cutFirst? ':') same
    rw [Text.cutFirst?_append (noColon _ scheme.letter),
      Text.cutFirst?_append (noColon _ letter)] at cut
    cases cut
  rw [isRemote, noScheme]
  cases letters with
  | nil => exact absurd rfl scheme.nonempty
  | cons c letters =>
    have notSlash : '/' ≠ c := by
      rintro rfl
      exact absurd (scheme.alpha _ List.mem_cons_self) (by decide)
    simp [isSchemeless, Text.startsWith, Text.after?, notSlash]

theorem directory_no_path (letters : Text) {rest : Text} (noSlash : '/' ∉ rest) :
    directory (letters ++ ':' :: '/' :: '/' :: rest) = letters ++ [':', '/'] := by
  have parts : letters ++ ':' :: '/' :: '/' :: rest = letters ++ [':', '/'] ++ '/' :: rest := by
    simp
  rw [directory, parts, Text.cutLast?_append _ noSlash]

theorem directory_path (letters front : Text) {tail : Text} (noSlash : '/' ∉ tail) :
    directory (letters ++ ':' :: '/' :: '/' :: (front ++ '/' :: tail)) =
      letters ++ ':' :: '/' :: '/' :: front := by
  have parts : letters ++ ':' :: '/' :: '/' :: (front ++ '/' :: tail) =
      letters ++ ':' :: '/' :: '/' :: front ++ '/' :: tail := by simp
  rw [directory, parts, Text.cutLast?_append _ noSlash]

theorem trimSlashes_of_slashes (letters : Text) {front : Text}
    (empty : LocalPath.trimSlashes front = []) :
    LocalPath.trimSlashes (letters ++ ':' :: '/' :: '/' :: front) = letters ++ [':'] := by
  obtain ⟨trail, whole, slash⟩ := Text.trimEndBy_split (· == '/') front
  rw [show Text.trimEndBy (· == '/') front = [] from empty, List.nil_append] at whole
  have slashes : ∀ c ∈ '/' :: '/' :: front, (c == '/') = true := by
    rw [whole]
    simpa using slash
  have none : Text.trimEndBy (· == '/') ('/' :: '/' :: front) = [] :=
    Text.trimEndBy_append slashes []
  rw [LocalPath.trimSlashes, Text.trimEndBy_append_cons (by decide), none]

theorem originOf_forbidden {letters : Text} (scheme : RemoteScheme letters)
    (plain : Url.isSpecialScheme (Text.asciiLower letters) = false) {c : Char}
    (forbidden : c = '<' ∨ c = '>') (o : Text) :
    originOf (letters ++ ':' :: '/' :: '/' :: [c]) ≠ .ok o := by
  have kept : Url.withoutIgnored (Text.trimEndBy (·.toNat ≤ 0x20) [c]) = [c] := by
    rcases forbidden with rfl | rfl <;> rfl
  have inside : Url.inAuthority (Text.asciiLower letters) c = true := by
    rw [Url.inAuthority, plain]
    rcases forbidden with rfl | rfl <;> rfl
  have host : Url.readHost (Text.asciiLower letters) [c] = .error .invalidHostCharacter := by
    rw [Url.readHost, if_neg (by simp [plain])]
    rcases forbidden with rfl | rfl <;> rfl
  have read : Url.readAuthority (Text.asciiLower letters) [c] [] =
      .error .invalidHostCharacter := by
    rcases forbidden with rfl | rfl
    all_goals
      simp only [Url.readAuthority, List.isEmpty_nil, Bool.not_true, Bool.false_eq_true, and_false,
        if_false]
      exact congrArg (· >>= _) host
  rw [Ne, scheme.originOf_slashes, kept, Url.originBehind, Url.fromAuthority,
    if_neg (by simp [plain]), List.takeWhile_cons_of_pos inside, List.dropWhile_cons_of_pos inside,
    List.takeWhile_nil, List.dropWhile_nil, read]
  simp [Except.map]

/-- Targets of which one leaves any address that does not keep its origin. -/
def escapes : List Text := [['/'], ['/', '\\'], ['/', '<'], ['/', '>'], ['/', 'x'], ['/', 'y']]

theorem isAbsolute_escapes : ∀ target ∈ escapes, isAbsolute target = false := by decide

theorem exists_fresh {first second : Text} (member : first ∈ escapes ∧ second ∈ escapes)
    (leaves : Leaves o address first ∧ Leaves o address second)
    (different : (resolve first (remote address).childOrigin?).key ≠
      (resolve second (remote address).childOrigin?).key) :
    ∃ target ∈ escapes, Leaves o address target ∧
      (resolve target (remote address).childOrigin?).key ≠ (remote address).key := by
  by_cases same : (resolve first (remote address).childOrigin?).key = (remote address).key
  · exact ⟨second, member.2, leaves.2, fun again => different (same.trans again.symm)⟩
  · exact ⟨first, member.1, leaves.1, same⟩

theorem exists_leaves_append (first second : Text)
    (member : first ∈ escapes ∧ second ∈ escapes) (different : first ≠ second)
    (isRemote : isRemote (directory address) = true)
    (noFirst : ∀ o, originOf (LocalPath.trimSlashes (directory address) ++ '/' :: first) ≠ .ok o)
    (noSecond : ∀ o,
      originOf (LocalPath.trimSlashes (directory address) ++ '/' :: second) ≠ .ok o) :
    ∃ target ∈ escapes, Leaves o address target ∧
      (resolve target (remote address).childOrigin?).key ≠ (remote address).key := by
  obtain ⟨leavesFirst, keyFirst⟩ :=
    leaves_append isRemote (isAbsolute_escapes first member.1) noFirst
  obtain ⟨leavesSecond, keySecond⟩ :=
    leaves_append isRemote (isAbsolute_escapes second member.2) noSecond
  refine exists_fresh member ⟨leavesFirst, leavesSecond⟩ ?_
  rw [keyFirst, keySecond]
  simpa using different

theorem exists_slash_behind (front tail : Text) :
    ∃ more, front ++ '/' :: tail = LocalPath.trimSlashes front ++ '/' :: more := by
  obtain ⟨slashes, whole, slash⟩ := Text.trimEndBy_split (· == '/') front
  cases slashes with
  | nil => exact ⟨tail, by rw [LocalPath.trimSlashes]; nth_rewrite 1 [whole]; simp⟩
  | cons c slashes =>
    obtain rfl : c = '/' := by simpa using slash c List.mem_cons_self
    exact ⟨slashes ++ '/' :: tail, by rw [LocalPath.trimSlashes]; nth_rewrite 1 [whole]; simp⟩

/-- What relative targets are appended to has a host, or it is cut down to the scheme or consists
of slashes alone. -/
theorem not_keepsOrigin_cases {letters front tail : Text} (scheme : RemoteScheme letters)
    (noSlash : '/' ∉ tail)
    (origin : originOf (letters ++ ':' :: '/' :: '/' :: (front ++ '/' :: tail)) = .ok o)
    (broken : ¬KeepsOrigin (letters ++ ':' :: '/' :: '/' :: (front ++ '/' :: tail))) :
    LocalPath.trimSlashes front = [] ∨
      Url.isSpecialScheme (Text.asciiLower letters) = true ∧
        (∀ c ∈ Url.withoutIgnored (LocalPath.trimSlashes front), Url.isSlash true c = true) ∧
        LocalPath.trimSlashes (letters ++ ':' :: '/' :: '/' :: front) =
          letters ++ ':' :: '/' :: '/' :: LocalPath.trimSlashes front := by
  by_cases empty : LocalPath.trimSlashes front = []
  · exact .inl empty
  · right
    have base : LocalPath.trimSlashes (letters ++ ':' :: '/' :: '/' :: front) =
        letters ++ ':' :: '/' :: '/' :: LocalPath.trimSlashes front := by
      have split := Text.trimEndBy_append_of_ne_nil empty (letters ++ [':', '/', '/'])
      simpa [LocalPath.trimSlashes] using split
    by_contra other
    refine broken ⟨?_, ?_⟩
    · rw [directory_path letters front noSlash, base]
      exact scheme.isRemote _
    · have host : HasHost letters (LocalPath.trimSlashes front) := by
        intro special
        by_contra none
        exact other ⟨special, by simpa using none, base⟩
      obtain ⟨more, parts⟩ := exists_slash_behind front tail
      rw [parts] at origin ⊢
      rw [origin, ← parts, directory_path letters front noSlash, base, List.append_assoc]
      exact (scheme.originOf_append_iff host more []).mp origin

/-- Neither a slash nor a backslash completes an address that has no host. -/
theorem originOf_more_slashes {letters x : Text} (scheme : RemoteScheme letters)
    (special : Url.isSpecialScheme (Text.asciiLower letters) = true)
    (slashes : ∀ c ∈ Url.withoutIgnored x, Url.isSlash true c = true) (more : Text)
    (slash : ∀ c ∈ more, Url.isSlash true c = true) (o : Text) :
    originOf (letters ++ ':' :: '/' :: '/' :: (x ++ more)) ≠ .ok o := by
  refine scheme.originOf_no_host special (fun c inside => ?_) o
  rw [Url.withoutIgnored, List.filter_append] at inside
  rcases List.mem_append.mp inside with before | behind
  · exact slashes c before
  · exact slash c (List.mem_filter.mp behind).1

theorem exists_leaves (isRemote : isRemote address = true) (origin : originOf address = .ok o)
    (broken : ¬KeepsOrigin address) :
    ∃ target ∈ escapes, Leaves o address target ∧
      (resolve target (remote address).childOrigin?).key ≠ (remote address).key := by
  obtain ⟨letters, rest, scheme, rfl⟩ :=
    exists_remoteScheme (t := []) isRemote (by rwa [List.append_nil])
  cases cut : Text.cutLast? '/' rest with
  | none =>
    -- the last slash is that of the scheme, and targets are no longer looked for on the net
    have onDisk := isRemote_no_path scheme
    rw [← directory_no_path letters (Text.cutLast?_eq_none_iff.mp cut)] at onDisk
    obtain ⟨leavesX, atX⟩ := leaves_rooted o ['/', 'x'] onDisk (by decide) (by decide)
    obtain ⟨leavesY, atY⟩ := leaves_rooted o ['/', 'y'] onDisk (by decide) (by decide)
    refine exists_fresh (by decide) ⟨leavesX, leavesY⟩ ?_
    rw [atX, atY]
    decide
  | some parts =>
    obtain ⟨front, tail⟩ := parts
    obtain ⟨rfl, noSlash⟩ := Text.append_of_cutLast? cut
    have path := directory_path letters front noSlash
    have onDirectory := scheme.isRemote front
    rw [← path] at onDirectory
    rcases not_keepsOrigin_cases scheme noSlash origin broken with empty | ⟨special, slashes, base⟩
    -- the directory is cut down to the scheme, and a host is read from the target
    · have base := trimSlashes_of_slashes letters empty
      rw [← path] at base
      cases special : Url.isSpecialScheme (Text.asciiLower letters) with
      | true =>
        have none := originOf_more_slashes (x := []) scheme special nofun
        refine exists_leaves_append ['/'] ['/', '\\'] (by decide) (by decide) onDirectory ?_ ?_
        · rw [base, List.append_assoc]
          exact none [] nofun
        · rw [base, List.append_assoc]
          exact none ['\\'] (by simp [Url.isSlash])
      | false =>
        refine exists_leaves_append ['/', '<'] ['/', '>'] (by decide) (by decide) onDirectory ?_ ?_
        · rw [base, List.append_assoc]
          exact originOf_forbidden scheme special (.inl rfl)
        · rw [base, List.append_assoc]
          exact originOf_forbidden scheme special (.inr rfl)
    -- only backslashes and ignored characters are left, so a target does not find a host either
    · have none := originOf_more_slashes scheme special slashes
      refine exists_leaves_append ['/'] ['/', '\\'] (by decide) (by decide) onDirectory ?_ ?_
      · rw [path, base, List.append_assoc]
        exact none ['/', '/'] (by simp [Url.isSlash])
      · rw [path, base, List.append_assoc]
        exact none ['/', '/', '\\'] (by simp [Url.isSlash])

end FilterPrep.Location
