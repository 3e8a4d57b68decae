import FilterPrep.Proofs.HostText
import FilterPrep.Proofs.Origin

/-!
# Absolute targets

An absolute target is accepted when the text of its origin is that of the document. Different
origins have different texts, so scheme, host and port agree then; but all addresses without an
origin have one text, and each of them is accepted in every other (`checkTarget_absolute_iff`).
-/

namespace FilterPrep

namespace Url

variable {scheme t : Text} {url other : Url}

/-- The port that an address is asked at. -/
def port? (url : Url) : Option Nat :=
  (url.authority.bind Authority.port).or (defaultPort? url.scheme)

structure SharesOrigin (url other : Url) : Prop where
  scheme : url.scheme = other.scheme
  host : url.host? = other.host?
  port : url.port? = other.port?

/-! ### What is read of an address -/

theorem readFile_scheme (read : readFile t = .ok url) : url.scheme = "file".toList := by
  unfold readFile at read
  simp only at read
  split at read
  · cases read
    rfl
  · split at read
    · cases read
      rfl
    · split at read
      · cases read
        rfl
      · obtain ⟨host, -, read⟩ := Except.bind_eq_ok.mp read
        cases read
        rfl

theorem readAuthority_host {behind rest : Text} {authority : Authority}
    (read : readAuthority scheme t behind = .ok (authority, rest)) :
    ∃ text, readHost scheme text = .ok authority.host := by
  unfold readAuthority at read
  simp only at read
  split at read
  · cases read
  · obtain ⟨found, host, read⟩ := Except.bind_eq_ok.mp read
    obtain ⟨port, -, read⟩ := Except.bind_eq_ok.mp read
    split at read
    · cases read
    · cases read
      exact ⟨_, host⟩

theorem readHierarchy_ok (read : readHierarchy scheme t = .ok url) :
    url.scheme = scheme ∧ (∃ list, url.path = .segments list) ∧
      ∃ authority text, url.authority = some authority ∧
        readHost scheme text = .ok authority.host := by
  unfold readHierarchy at read
  simp only [List.span_eq_takeWhile_dropWhile] at read
  obtain ⟨parts, found, read⟩ := Except.bind_eq_ok.mp read
  cases read
  obtain ⟨text, host⟩ := readAuthority_host found
  exact ⟨rfl, ⟨_, rfl⟩, parts.1, text, rfl, host⟩

theorem readOther_scheme (read : readOther scheme t = .ok url) : url.scheme = scheme := by
  unfold readOther at read
  split at read
  · exact (readHierarchy_ok read).1
  · split at read
    · exact (readHierarchy_ok read).1
    · cases read
      rfl

theorem isSpecialScheme_of_defaultPort {port : Nat} (usual : defaultPort? scheme = some port) :
    isSpecialScheme scheme = true := by
  simp [isSpecialScheme, usual]

/-- An address whose scheme has a default port has a domain as its host. -/
theorem authority_of_parse {port : Nat} (parsed : parse t = .ok url)
    (usual : defaultPort? url.scheme = some port) :
    ∃ authority, url.authority = some authority ∧ authority.host.IsDomain := by
  unfold parse at parsed
  split at parsed
  · cases parsed
  · next scheme rest _ =>
    split at parsed
    · have none : defaultPort? "file".toList = none := by decide
      rw [readFile_scheme parsed, none] at usual
      cases usual
    · have named := readOther_scheme parsed
      rw [named] at usual
      have special := isSpecialScheme_of_defaultPort usual
      unfold readOther at parsed
      rw [if_pos special] at parsed
      obtain ⟨-, -, authority, text, found, host⟩ := readHierarchy_ok parsed
      refine ⟨authority, found, text, ?_⟩
      rw [readHost, if_pos special] at host
      split at host
      · cases host
      · exact host

/-! ### Origins of addresses -/

/-- The origin of an address whose scheme has a default port: its scheme, host and port. -/
theorem ownOrigin?_of_parse {port : Nat} (parsed : parse t = .ok url)
    (usual : defaultPort? url.scheme = some port) :
    ∃ host number, url.ownOrigin? = some ⟨url.scheme, host, number⟩ ∧
      url.host? = some host ∧ url.port? = some number ∧ host.IsDomain := by
  obtain ⟨authority, found, isDomain⟩ := authority_of_parse parsed usual
  have named := Host.isEmpty_of_isDomain isDomain
  refine ⟨authority.host, authority.port.getD port, ?_, ?_, ?_, isDomain⟩
  · simp [ownOrigin?, found, usual]
  · simp [host?, found, named]
  · cases given : authority.port <;> simp [port?, found, usual, given]

theorem ownOrigin?_eq_none_iff (parsed : parse t = .ok url) :
    url.ownOrigin? = none ↔ defaultPort? url.scheme = none := by
  cases usual : defaultPort? url.scheme with
  | none => simp [ownOrigin?, usual]
  | some port =>
    obtain ⟨host, number, own, -⟩ := ownOrigin?_of_parse parsed usual
    simp [own]

theorem of_ownOrigin?_eq_some {origin : Origin} (parsed : parse t = .ok url)
    (own : url.ownOrigin? = some origin) :
    url.scheme = origin.scheme ∧ url.host? = some origin.host ∧ url.port? = some origin.port ∧
      origin.host.IsDomain ∧ (defaultPort? origin.scheme).isSome = true := by
  cases usual : defaultPort? url.scheme with
  | none =>
    rw [(ownOrigin?_eq_none_iff parsed).mpr usual] at own
    cases own
  | some port =>
    obtain ⟨host, number, own', atHost, atPort, isDomain⟩ := ownOrigin?_of_parse parsed usual
    rw [own] at own'
    cases own'
    exact ⟨rfl, atHost, atPort, isDomain, by simp [usual]⟩

theorem SharesOrigin.ownOrigin?_eq {u : Text} (shared : url.SharesOrigin other)
    (parsed : parse t = .ok url) (parsed' : parse u = .ok other) :
    url.ownOrigin? = other.ownOrigin? := by
  cases usual : defaultPort? url.scheme with
  | none =>
    have usual' : defaultPort? other.scheme = none := shared.scheme ▸ usual
    rw [(ownOrigin?_eq_none_iff parsed).mpr usual, (ownOrigin?_eq_none_iff parsed').mpr usual']
  | some port =>
    have usual' : defaultPort? other.scheme = some port := shared.scheme ▸ usual
    obtain ⟨host, number, own, atHost, atPort, -⟩ := ownOrigin?_of_parse parsed usual
    obtain ⟨host', number', own', atHost', atPort', -⟩ := ownOrigin?_of_parse parsed' usual'
    rw [shared.host, atHost'] at atHost
    rw [shared.port, atPort'] at atPort
    cases atHost
    cases atPort
    rw [own, own', shared.scheme]

theorem ownOrigin?_eq_iff {u : Text} (parsed : parse t = .ok url) (parsed' : parse u = .ok other) :
    url.ownOrigin? = other.ownOrigin? ↔ url.SharesOrigin other ∨
      defaultPort? url.scheme = none ∧ defaultPort? other.scheme = none := by
  constructor
  · intro same
    cases own : url.ownOrigin? with
    | none =>
      have own' : other.ownOrigin? = none := same ▸ own
      exact .inr ⟨(ownOrigin?_eq_none_iff parsed).mp own, (ownOrigin?_eq_none_iff parsed').mp own'⟩
    | some origin =>
      have own' : other.ownOrigin? = some origin := same ▸ own
      obtain ⟨scheme, host, port, -⟩ := of_ownOrigin?_eq_some parsed own
      obtain ⟨scheme', host', port', -⟩ := of_ownOrigin?_eq_some parsed' own'
      exact .inl ⟨scheme.trans scheme'.symm, host.trans host'.symm, port.trans port'.symm⟩
  · rintro (shared | ⟨none, none'⟩)
    · exact shared.ownOrigin?_eq parsed parsed'
    · rw [(ownOrigin?_eq_none_iff parsed).mpr none, (ownOrigin?_eq_none_iff parsed').mpr none']

theorem origin?_of_other (notStored : url.scheme ≠ "blob".toList) :
    url.origin? = url.ownOrigin? := by
  unfold origin?
  cases url.path.render.length with
  | zero => rfl
  | succ depth => exact if_neg notStored

theorem origin?_of_segments {list : List Text} (path : url.path = .segments list) :
    url.origin? = url.ownOrigin? := by
  by_cases stored : url.scheme = "blob".toList
  · unfold origin?
    cases url.path.render.length with
    | zero => rfl
    | succ depth =>
      have none : defaultPort? "blob".toList = none := by decide
      rw [originWithin?, if_pos stored, path, parse_segments, ownOrigin?, stored, none]
      cases url.authority <;> rfl
  · exact origin?_of_other stored

/-- The origin of an address is that of an address, its own or one that it nests. -/
theorem ownOrigin?_of_originWithin? {depth : Nat} {origin : Origin} (parsed : parse t = .ok url)
    (found : originWithin? depth url = some origin) :
    ∃ u inner, parse u = .ok inner ∧ inner.ownOrigin? = some origin := by
  induction depth generalizing t url with
  | zero => exact ⟨t, url, parsed, found⟩
  | succ depth ih =>
    rw [originWithin?] at found
    split at found
    · split at found
      · next inner nested => exact ih nested found
      · cases found
    · exact ⟨t, url, parsed, found⟩

/-! ### Texts of origins -/

/-- The port as it stands in the text of an origin. -/
def Origin.portText (origin : Origin) : Text :=
  if defaultPort? origin.scheme = some origin.port then [] else ':' :: Text.ofNat origin.port

theorem Origin.render_eq (origin : Origin) :
    origin.render =
      origin.scheme ++ ':' :: ('/' :: '/' :: (origin.host.render ++ origin.portText)) := by
  rw [Origin.render, List.append_assoc, List.append_assoc]
  rfl

theorem Origin.followsHost_portText (origin : Origin) : Host.FollowsHost origin.portText := by
  intro c first
  unfold Origin.portText at first
  split at first
  · cases first
  · cases first
    rfl

theorem noColon_of_defaultPort (usual : (defaultPort? scheme).isSome = true) : ':' ∉ scheme := by
  unfold defaultPort? at usual
  split at usual
  · next http => rcases http with rfl | rfl <;> decide
  · split at usual
    · next https => rcases https with rfl | rfl <;> decide
    · split at usual
      · next ftp =>
        subst ftp
        decide
      · cases usual

theorem Origin.render_injective {origin other : Origin} (isDomain : origin.host.IsDomain)
    (isDomain' : other.host.IsDomain) (usual : (defaultPort? origin.scheme).isSome = true)
    (usual' : (defaultPort? other.scheme).isSome = true) (same : origin.render = other.render) :
    origin = other := by
  have cut := congrArg (Text.cutFirst? ':') same
  rw [Origin.render_eq, Origin.render_eq, Text.cutFirst?_append (noColon_of_defaultPort usual),
    Text.cutFirst?_append (noColon_of_defaultPort usual')] at cut
  obtain ⟨scheme, rest⟩ := Prod.mk.inj (Option.some.inj cut)
  obtain ⟨host, port⟩ := Host.eq_of_render_append isDomain isDomain' origin.followsHost_portText
    other.followsHost_portText (List.cons.inj (List.cons.inj rest).2).2
  obtain ⟨s, h, p⟩ := origin
  obtain ⟨s', h', p'⟩ := other
  cases scheme
  cases host
  have number : p = p' := by
    unfold Origin.portText at port
    simp only at port
    split at port
    · next default =>
      split at port
      · next default' => exact Option.some.inj (default.symm.trans default')
      · cases port
    · split at port
      · cases port
      · exact Text.ofNat_injective (List.cons.inj port).2
  rw [number]

theorem Origin.render_ne_null (origin : Origin) : origin.render ≠ "null".toList := by
  intro same
  have colon : ':' ∈ origin.render := by
    rw [Origin.render_eq]
    simp
  rw [same] at colon
  exact absurd colon (by decide)

theorem originText_eq_iff {u : Text} (parsed : parse t = .ok url) (parsed' : parse u = .ok other) :
    url.originText = other.originText ↔ url.origin? = other.origin? := by
  refine ⟨fun same => ?_, fun same => by rw [originText, originText, same]⟩
  unfold originText at same
  cases found : url.origin? with
  | none =>
    cases found' : other.origin? with
    | none => rfl
    | some origin =>
      rw [found, found'] at same
      exact absurd same.symm origin.render_ne_null
  | some origin =>
    cases found' : other.origin? with
    | none =>
      rw [found, found'] at same
      exact absurd same origin.render_ne_null
    | some origin' =>
      rw [found, found'] at same
      -- texts can be told apart only between hosts of special schemes, also in nested addresses
      obtain ⟨_, inner, read, own⟩ := ownOrigin?_of_originWithin? parsed found
      obtain ⟨_, inner', read', own'⟩ := ownOrigin?_of_originWithin? parsed' found'
      obtain ⟨-, -, -, isDomain, usual⟩ := of_ownOrigin?_eq_some read own
      obtain ⟨-, -, -, isDomain', usual'⟩ := of_ownOrigin?_eq_some read' own'
      rw [Origin.render_injective isDomain isDomain' usual usual' same]

end Url

namespace Location

open Url

variable {target origin : Text}

theorem parse_scheme {letters t : Text} {url : Url} (nonempty : letters ≠ [])
    (letter : ∀ c ∈ letters, isSchemeLetter c = true)
    (parsed : parse (letters ++ ':' :: t) = .ok url) :
    (∀ c ∈ letters, c.isAlpha = true) ∧ url.scheme = Text.asciiLower letters := by
  rw [parse, trim_append_colon letter, readScheme?_letters nonempty letter] at parsed
  split at parsed
  · cases parsed
  · next scheme rest found =>
    split at found
    · next alpha =>
      cases found
      refine ⟨List.all_eq_true.mp alpha, ?_⟩
      split at parsed
      · next file =>
        rw [readFile_scheme parsed]
        simpa [isFileScheme] using (beq_iff_eq.mp file).symm
      · exact readOther_scheme parsed
    · cases found

/-- An absolute address does not nest another. -/
theorem origin?_of_isAbsolute {url : Url} (absolute : isAbsolute target = true)
    (parsed : parse target = .ok url) : url.origin? = url.ownOrigin? := by
  by_cases stored : url.scheme = "blob".toList
  · cases found : scheme? target with
    | none =>
      have schemeless : isSchemeless target = true := by simpa [isAbsolute, found] using absolute
      obtain ⟨x, rest⟩ := Option.isSome_iff_exists.mp schemeless
      rw [Text.after?_eq_some_iff.mp rest] at parsed
      cases (parse_slash _).symm.trans parsed
    | some letters =>
      obtain ⟨nonempty, letter, x, rfl⟩ := scheme?_eq_some_iff.mp found
      obtain ⟨alpha, scheme⟩ := parse_scheme nonempty letter parsed
      have remote : RemoteScheme letters :=
        ⟨nonempty, alpha, by rw [← scheme, stored]; decide⟩
      rw [remote.parse_slashes] at parsed
      obtain ⟨-, ⟨list, path⟩, -⟩ := readHierarchy_ok parsed
      exact origin?_of_segments path
  · exact origin?_of_other stored

theorem originOf_eq_ok_iff_parse {address o : Text} :
    originOf address = .ok o ↔ ∃ url, parse address = .ok url ∧ url.originText = o := by
  unfold originOf
  cases parse address with
  | error error => simp
  | ok url => simp

theorem checkTarget_eq_ok_iff (given : origin ≠ []) (absolute : isAbsolute target = true) :
    checkTarget target (some origin) = .ok () ↔
      ∃ theirs ours, parse target = .ok theirs ∧ parse origin = .ok ours ∧
        theirs.origin? = ours.origin? := by
  constructor
  · intro accepted
    obtain ⟨o, found, found'⟩ := originOf_of_checkTarget given absolute accepted
    obtain ⟨theirs, parsed, text⟩ := originOf_eq_ok_iff_parse.mp found
    obtain ⟨ours, parsed', text'⟩ := originOf_eq_ok_iff_parse.mp found'
    exact ⟨theirs, ours, parsed, parsed',
      (originText_eq_iff parsed parsed').mp (text.trans text'.symm)⟩
  · rintro ⟨theirs, ours, parsed, parsed', same⟩
    have text := (originText_eq_iff parsed parsed').mpr same
    cases origin with
    | nil => exact absurd rfl given
    | cons c rest =>
      simp only [checkTarget, absolute, if_true, originOf, parsed, parsed']
      exact if_pos text

/-- An absolute target is accepted if it shares scheme, host and port with the document, and also
whenever neither of the two schemes has origins. Stored data has the origin of what it nests. -/
theorem checkTarget_absolute_iff (given : origin ≠ []) (absolute : isAbsolute target = true) :
    checkTarget target (some origin) = .ok () ↔
      ∃ theirs ours, parse target = .ok theirs ∧ parse origin = .ok ours ∧
        (ours.scheme ≠ "blob".toList ∧ (theirs.SharesOrigin ours ∨
            defaultPort? theirs.scheme = none ∧ defaultPort? ours.scheme = none) ∨
          ours.scheme = "blob".toList ∧ theirs.origin? = ours.origin?) := by
  rw [checkTarget_eq_ok_iff given absolute]
  refine exists_congr fun theirs => exists_congr fun ours =>
    and_congr_right fun parsed => and_congr_right fun parsed' => ?_
  by_cases stored : ours.scheme = "blob".toList
  · exact ⟨fun same => .inr ⟨stored, same⟩,
      fun accepted => accepted.elim (fun other => absurd stored other.1) And.right⟩
  · have origins : theirs.origin? = ours.origin? ↔ theirs.SharesOrigin ours ∨
        defaultPort? theirs.scheme = none ∧ defaultPort? ours.scheme = none := by
      rw [origin?_of_isAbsolute absolute parsed, origin?_of_other stored,
        ownOrigin?_eq_iff parsed parsed']
    exact ⟨fun same => .inl ⟨stored, origins.mp same⟩,
      fun accepted => accepted.elim (fun other => origins.mpr other.2)
        fun other => absurd other.1 stored⟩

theorem checkTarget_absolute_iff_port :
    "HTTP://[::1]/lists".toList ≠ [] ∧ isAbsolute "http://[0::1]:80/x.txt".toList = true ∧
      ∃ theirs ours, parse "http://[0::1]:80/x.txt".toList = .ok theirs ∧
        parse "HTTP://[::1]/lists".toList = .ok ours ∧
        (ours.scheme ≠ "blob".toList ∧ (theirs.SharesOrigin ours ∨
            defaultPort? theirs.scheme = none ∧ defaultPort? ours.scheme = none) ∨
          ours.scheme = "blob".toList ∧ theirs.origin? = ours.origin?) :=
  ⟨by decide, by decide,
    (checkTarget_absolute_iff (by decide) (by decide)).mp (by decide +kernel)⟩

/-- A file is accepted in a document from elsewhere, because neither has an origin. -/
theorem checkTarget_accepts_file :
    isAbsolute "file:///etc/passwd".toList = true ∧
      checkTarget "file:///etc/passwd".toList (some "app://lists".toList) = .ok () ∧
      ∃ theirs ours, parse "file:///etc/passwd".toList = .ok theirs ∧
        parse "app://lists".toList = .ok ours ∧ theirs.scheme ≠ ours.scheme ∧
        theirs.host? ≠ ours.host? :=
  ⟨by decide, rfl, _, _, rfl, rfl, by decide, by decide⟩

end Location

end FilterPrep
