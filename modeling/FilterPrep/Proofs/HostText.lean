import FilterPrep.Proofs.HostName

/-!
# Written hosts

A host is known from its text, also with a port behind it (`Host.eq_of_render_append`): numbers
are known from their digits, the pieces of an IPv6 address from its text with the longest run of
zeros left out, a domain name holds none of the marks that surround a host, and what would be read
as a number is no name.
-/

namespace FilterPrep

namespace Text

/-! ### Numbers -/

theorem ofNat_injective {m n : Nat} (same : ofNat m = ofNat n) : m = n := by
  calc m = Nat.ofDigitChars 10 (ofNat m) 0 := Nat.ofDigitChars_ten_toDigits.symm
    _ = Nat.ofDigitChars 10 (ofNat n) 0 := by rw [same]
    _ = n := Nat.ofDigitChars_ten_toDigits

theorem isDigit_of_mem_ofNat {n : Nat} {c : Char} (member : c ∈ ofNat n) : c.isDigit = true :=
  Nat.isDigit_of_mem_toDigits (by decide) (by decide) member

theorem hexDigit_digitChar : ∀ d < 16, hexDigit (Nat.digitChar d) = d := by decide

theorem isHexDigit_digitChar : ∀ d < 16, isHexDigit (Nat.digitChar d) = true := by decide

theorem hexNat_ofNatHex (n : Nat) : hexNat (ofNatHex n) = n := by
  induction n using Nat.strong_induction_on with
  | _ n ih =>
    by_cases small : n < 16
    · rw [ofNatHex, Nat.toDigits_of_lt_base small]
      simpa [hexNat] using hexDigit_digitChar n small
    · have shorter := ih (n / 16) (by omega)
      have last := hexDigit_digitChar (n % 16) (by omega)
      rw [ofNatHex, hexNat] at shorter
      rw [ofNatHex, Nat.toDigits_of_base_le (by decide) (by omega), hexNat, List.foldl_concat,
        shorter, last]
      omega

theorem ofNatHex_injective : Function.Injective ofNatHex := by
  intro m n same
  rw [← hexNat_ofNatHex m, same, hexNat_ofNatHex]

theorem isHexDigit_of_mem_ofNatHex {n : Nat} {c : Char} (member : c ∈ ofNatHex n) :
    isHexDigit c = true := by
  induction n using Nat.strong_induction_on with
  | _ n ih =>
    by_cases small : n < 16
    · rw [ofNatHex, Nat.toDigits_of_lt_base small, List.mem_singleton] at member
      rw [member]
      exact isHexDigit_digitChar n small
    · rw [ofNatHex, Nat.toDigits_of_base_le (by decide) (by omega), List.mem_append,
        List.mem_singleton] at member
      rcases member with before | last
      · exact ih (n / 16) (by omega) before
      · rw [last]
        exact isHexDigit_digitChar (n % 16) (by omega)

end Text

namespace Url

/-! ### IPv4 addresses -/

namespace Ipv4

/-- The four numbers of an address as they are written. -/
def numbers (address : Nat) : List Text :=
  [address / 16777216, address / 65536 % 256, address / 256 % 256, address % 256].map Text.ofNat

theorem noDot_numbers (address : Nat) : ∀ number ∈ numbers address, '.' ∉ number := by
  intro number member dot
  obtain ⟨n, -, rfl⟩ := List.mem_map.mp member
  exact absurd (Text.isDigit_of_mem_ofNat dot) (by decide)

theorem split_render (address : Nat) :
    Text.split (· == '.') (render address) = numbers address :=
  Text.split_join nofun (noDot_numbers address)

theorem render_injective {left right : Nat} (same : render left = render right) :
    left = right := by
  have numbers := congrArg (Text.split (· == '.')) same
  rw [split_render, split_render] at numbers
  simp only [Ipv4.numbers, List.map_cons, List.map_nil, List.cons.injEq, and_true] at numbers
  obtain ⟨first, second, third, fourth⟩ := numbers
  have first := Text.ofNat_injective first
  have second := Text.ofNat_injective second
  have third := Text.ofNat_injective third
  have fourth := Text.ofNat_injective fourth
  omega

theorem mem_render {address : Nat} {c : Char} (member : c ∈ render address) :
    c.isDigit = true ∨ c = '.' := by
  rcases Text.mem_join member with dot | ⟨number, written, inside⟩
  · exact .inr (List.mem_singleton.mp dot)
  · obtain ⟨n, -, rfl⟩ := List.mem_map.mp written
    exact .inl (Text.isDigit_of_mem_ofNat inside)

theorem endsInNumber_render (address : Nat) : endsInNumber (render address) = true := by
  have last : Text.ofNat (address % 256) ≠ [] := Nat.toDigits_ne_nil
  have parts : parts (render address) = numbers address := by
    rw [Ipv4.parts, split_render]
    exact if_neg fun ends => last (Option.some.inj ends.2)
  have digits : (Text.ofNat (address % 256)).all Char.isDigit = true :=
    List.all_eq_true.mpr fun c member => Text.isDigit_of_mem_ofNat member
  have final : (numbers address).getLast? = some (Text.ofNat (address % 256)) := rfl
  rw [endsInNumber, parts, final]
  simp [last, digits]

theorem render_ne_of_named {name : Text} (named : endsInNumber name = false) (address : Nat) :
    render address ≠ name := by
  rintro rfl
  rw [endsInNumber_render] at named
  cases named

end Ipv4

/-! ### IPv6 addresses -/

namespace Ipv6

/-- Pieces between colons. -/
def joined (pieces : List Nat) : Text := Text.join [':'] (pieces.map Text.ofNatHex)

theorem noColon_pieces (pieces : List Nat) : ∀ piece ∈ pieces.map Text.ofNatHex, ':' ∉ piece := by
  intro piece member colon
  obtain ⟨n, -, rfl⟩ := List.mem_map.mp member
  exact absurd (Text.isHexDigit_of_mem_ofNatHex colon) (by decide)

theorem split_joined {pieces : List Nat} (nonempty : pieces ≠ []) :
    Text.split (· == ':') (joined pieces) = pieces.map Text.ofNatHex :=
  Text.split_join (by simpa using nonempty) (noColon_pieces pieces)

theorem solid_pieces (pieces : List Nat) :
    ∀ piece ∈ pieces.map Text.ofNatHex, (!piece.isEmpty) = true := by
  intro piece member
  obtain ⟨n, -, rfl⟩ := List.mem_map.mp member
  have digits : Text.ofNatHex n ≠ [] := Nat.toDigits_ne_nil
  simpa using digits

/-- What a text with a gap has between its colons: the pieces on both sides of an empty one. A
side without pieces is empty as well. -/
theorem split_gap (left right : List Nat) :
    Text.split (· == ':') (joined left ++ ':' :: ':' :: joined right) =
      Text.split (· == ':') (joined left) ++ [] :: Text.split (· == ':') (joined right) := by
  rw [Text.split_append (by decide)]
  rfl

theorem takeWhile_gap (left : List Nat) (rest : List Text) :
    (Text.split (· == ':') (joined left) ++ [] :: rest).takeWhile (fun piece => !piece.isEmpty) =
      left.map Text.ofNatHex := by
  by_cases empty : left = []
  · rw [empty]
    rfl
  · rw [split_joined empty, List.takeWhile_append_of_pos (solid_pieces left)]
    simp

theorem filter_split_joined (pieces : List Nat) :
    (Text.split (· == ':') (joined pieces)).filter (fun piece => !piece.isEmpty) =
      pieces.map Text.ofNatHex := by
  by_cases empty : pieces = []
  · rw [empty]
    rfl
  · rw [split_joined empty, List.filter_eq_self]
    exact solid_pieces pieces

theorem gap_injective {left right left' right' : List Nat}
    (same : joined left ++ ':' :: ':' :: joined right =
      joined left' ++ ':' :: ':' :: joined right') : left = left' ∧ right = right' := by
  have pieces := congrArg (Text.split (· == ':')) same
  rw [split_gap, split_gap] at pieces
  have front := congrArg (List.takeWhile fun piece : Text => !piece.isEmpty) pieces
  rw [takeWhile_gap, takeWhile_gap] at front
  obtain rfl := List.map_injective_iff.mpr Text.ofNatHex_injective front
  have back := congrArg (List.filter fun piece : Text => !piece.isEmpty)
    (List.cons.inj (List.append_cancel_left pieces)).2
  rw [filter_split_joined, filter_split_joined] at back
  exact ⟨rfl, List.map_injective_iff.mpr Text.ofNatHex_injective back⟩

theorem joined_ne_gap (pieces left right : List Nat) :
    joined pieces ≠ joined left ++ ':' :: ':' :: joined right := by
  intro same
  have parts := congrArg (Text.split (· == ':')) same
  rw [split_gap] at parts
  by_cases empty : pieces = []
  · rw [empty] at same
    exact absurd same (by simp [joined, Text.join])
  · rw [split_joined empty] at parts
    have member : [] ∈ pieces.map Text.ofNatHex := parts ▸ by simp
    exact absurd (solid_pieces pieces [] member) (by decide)

theorem longestZeros_cases (i : Nat) (best : Nat × Nat) (pieces : List Nat) :
    longestZeros i best pieces = best ∨ ∃ k, longestZeros i best pieces =
      (i + k, ((pieces.drop k).takeWhile (· == 0)).length) := by
  induction pieces generalizing i best with
  | nil => exact .inl rfl
  | cons n rest ih =>
    rw [longestZeros]
    rcases ih (i + 1) (if best.2 < ((n :: rest).takeWhile (· == 0)).length then
      (i, ((n :: rest).takeWhile (· == 0)).length) else best) with same | ⟨k, later⟩
    · simp only [same]
      split
      · exact .inr ⟨0, rfl⟩
      · exact .inl rfl
    · refine .inr ⟨k + 1, later.trans ?_⟩
      rw [List.drop_succ_cons, Nat.add_assoc, Nat.add_comm 1 k]

theorem zeros_in_front (pieces : List Nat) :
    List.replicate (pieces.takeWhile (· == 0)).length 0 ++
      pieces.drop (pieces.takeWhile (· == 0)).length = pieces := by
  have zeros : pieces.takeWhile (· == 0) =
      List.replicate (pieces.takeWhile (· == 0)).length 0 := by
    refine List.eq_replicate_of_mem fun n member => ?_
    simpa using List.all_eq_true.mp (List.all_takeWhile ..) n member
  have rest : pieces.drop (pieces.takeWhile (· == 0)).length = pieces.dropWhile (· == 0) := by
    calc pieces.drop (pieces.takeWhile (· == 0)).length
        = (pieces.takeWhile (· == 0) ++ pieces.dropWhile (· == 0)).drop
            (pieces.takeWhile (· == 0)).length := by rw [List.takeWhile_append_dropWhile]
      _ = pieces.dropWhile (· == 0) := List.drop_left
  rw [← zeros, rest, List.takeWhile_append_dropWhile]

/-- A run of zeros may be left out of a text, and nothing else. -/
theorem render_cases (pieces : List Nat) :
    render pieces = joined pieces ∨ ∃ left run right,
      pieces = left ++ List.replicate run 0 ++ right ∧
        render pieces = joined left ++ ':' :: ':' :: joined right := by
  unfold render
  split
  next start run found =>
  dsimp only
  split
  · next long =>
    right
    rcases longestZeros_cases 0 (0, 1) pieces with same | ⟨k, place⟩
    · rw [found] at same
      cases same
      exact absurd long (by decide)
    · rw [found, Nat.zero_add] at place
      obtain ⟨rfl, size⟩ := Prod.mk.inj place
      refine ⟨pieces.take start, run, pieces.drop (start + run), ?_, by simp [joined]⟩
      rw [List.append_assoc, ← List.drop_drop, size, zeros_in_front, List.take_append_drop]
  · exact .inl rfl

theorem render_injective {pieces other : List Nat} (size : pieces.length = other.length)
    (same : render pieces = render other) : pieces = other := by
  rcases render_cases pieces with whole | ⟨left, run, right, rfl, gap⟩
  · rcases render_cases other with whole' | ⟨left, run, right, rfl, gap⟩
    · rw [whole, whole'] at same
      by_cases empty : pieces = []
      · rw [empty] at size ⊢
        exact (List.eq_nil_of_length_eq_zero size.symm).symm
      · have nonempty : other ≠ [] := by
          rintro rfl
          exact empty (List.eq_nil_of_length_eq_zero size)
        have parts := congrArg (Text.split (· == ':')) same
        rw [split_joined empty, split_joined nonempty] at parts
        exact List.map_injective_iff.mpr Text.ofNatHex_injective parts
    · rw [whole, gap] at same
      exact absurd same (joined_ne_gap _ _ _)
  · rcases render_cases other with whole | ⟨left', run', right', rfl, gap'⟩
    · rw [gap, whole] at same
      exact absurd same.symm (joined_ne_gap _ _ _)
    · rw [gap, gap'] at same
      obtain ⟨rfl, rfl⟩ := gap_injective same
      simp only [List.length_append, List.length_replicate] at size
      obtain rfl : run = run' := by omega
      rfl

theorem mem_joined {pieces : List Nat} {c : Char} (member : c ∈ joined pieces) :
    Text.isHexDigit c = true ∨ c = ':' := by
  rcases Text.mem_join member with colon | ⟨piece, written, inside⟩
  · exact .inr (List.mem_singleton.mp colon)
  · obtain ⟨n, -, rfl⟩ := List.mem_map.mp written
    exact .inl (Text.isHexDigit_of_mem_ofNatHex inside)

theorem mem_render {pieces : List Nat} {c : Char} (member : c ∈ render pieces) :
    Text.isHexDigit c = true ∨ c = ':' := by
  rcases render_cases pieces with whole | ⟨left, run, right, -, gap⟩
  · rw [whole] at member
    exact mem_joined member
  · rw [gap, List.mem_append, List.mem_cons, List.mem_cons] at member
    rcases member with before | colon | colon | behind
    · exact mem_joined before
    · exact .inr colon
    · exact .inr colon
    · exact mem_joined behind

theorem length_dotted? {t : Text} {two : List Nat} (read : dotted? t = some two) :
    two.length = 2 := by
  simp only [dotted?, Option.bind_eq_bind, Option.bind_eq_some_iff] at read
  obtain ⟨numbers, -, pieces⟩ := read
  split at pieces
  · cases pieces
    rfl
  · cases pieces

theorem length_readPieces {reading result : Reading} {t : Text}
    (room : reading.pieces.length ≤ 8) (read : readPieces reading t = some result) :
    result.pieces.length ≤ 8 := by
  fun_induction readPieces reading t with
  | case1 reading =>
    cases read
    exact room
  | case4 reading rest free noGap pieces ih =>
    refine ih ?_ read
    simp only [pieces, List.length_append, List.length_singleton]
    omega
  | case5 reading c rest free =>
    cases read
    simp only [List.length_append, List.length_singleton]
    omega
  | case7 reading c rest free noColon ds tail behind fits =>
    obtain ⟨two, dotted, rfl⟩ := Option.map_eq_some_iff.mp read
    have length_two := length_dotted? dotted
    simp only [List.length_append]
    omega
  | case9 reading c rest free noColon ds behind follows more ih =>
    refine ih ?_ read
    simp only [List.length_append, List.length_singleton]
    omega
  | case2 => cases read
  | case3 => cases read
  | case6 => cases read
  | case8 => cases read
  | case10 => cases read

theorem length_fill? {reading : Reading} {pieces : List Nat} (room : reading.pieces.length ≤ 8)
    (filled : reading.fill? = some pieces) : pieces.length = 8 := by
  unfold Reading.fill? at filled
  split at filled
  · split at filled
    · next whole =>
      cases filled
      exact whole
    · cases filled
  · cases filled
    simp only [List.length_append, List.length_take, List.length_replicate, List.length_drop]
    omega

theorem length_pieces? {t : Text} {pieces : List Nat} (read : pieces? t = some pieces) :
    pieces.length = 8 := by
  unfold pieces? at read
  split at read
  · obtain ⟨reading, started, filled⟩ := Option.bind_eq_some_iff.mp read
    exact length_fill? (length_readPieces (by decide) started) filled
  · cases read
  · split at read
    · cases read
    · obtain ⟨reading, started, filled⟩ := Option.bind_eq_some_iff.mp read
      exact length_fill? (length_readPieces (by decide) started) filled

end Ipv6

end Url

/-! ### Domain names -/

namespace Idna

/-- Nothing in the text is forbidden in host names. -/
def Allowed (t : Text) : Prop := ∀ c ∈ t, isForbidden c = false

instance (t : Text) : Decidable (Allowed t) :=
  decidable_of_iff (t.any isForbidden = false) (by simp [Allowed])

theorem Allowed.append {t u : Text} (left : Allowed t) (right : Allowed u) : Allowed (t ++ u) := by
  intro c member
  exact (List.mem_append.mp member).elim (left c) (right c)

namespace Punycode

theorem digit_allowed : ∀ n < 36, isForbidden (digit n) = false := by decide

theorem number_allowed (bias k q : Nat) : Allowed (number bias k q) := by
  fun_induction number bias k q with
  | case1 k q t small =>
    have le : t ≤ 26 := threshold_le bias k
    intro c member
    rw [List.mem_singleton.mp member]
    exact digit_allowed q (by omega)
  | case2 k q t large ih =>
    have le : t ≤ 26 := threshold_le bias k
    have mod_lt : (q - t) % (36 - t) < 36 - t := Nat.mod_lt _ (by omega)
    intro c member
    rcases List.mem_cons.mp member with rfl | later
    · exact digit_allowed _ (by omega)
    · exact ih c later

theorem pass_allowed (basic m : Nat) {w : Writer} (allowed : Allowed w.out) (c : Char) :
    Allowed (w.pass basic m c).out := by
  unfold Writer.pass
  split
  · exact allowed
  · split
    · exact allowed.append (number_allowed _ _ _)
    · exact allowed

theorem foldl_pass_allowed (basic m : Nat) {w : Writer} (allowed : Allowed w.out) (label : Text) :
    Allowed (label.foldl (Writer.pass basic m) w).out := by
  induction label generalizing w with
  | nil => exact allowed
  | cons c label ih => exact ih (pass_allowed basic m allowed c)

theorem run_allowed (label : Text) (basic : Nat) (ms : List Nat) (n : Nat) {w : Writer}
    (allowed : Allowed w.out) : Allowed (Writer.run label basic ms n w).out := by
  induction ms generalizing n w with
  | nil => exact allowed
  | cons m ms ih =>
    refine ih _ (foldl_pass_allowed basic m ?_ label)
    exact allowed

theorem encode_allowed {label : Text} (allowed : Allowed label) : Allowed (encode label) := by
  have basic : Allowed (label.filter (·.toNat < 128)) := fun c member =>
    allowed c (List.mem_filter.mp member).1
  refine run_allowed _ _ _ _ ?_
  split
  · nofun
  · exact basic.append (by decide)

end Punycode

theorem writeLabel?_allowed {label written : Text} (allowed : Allowed label)
    (writes : writeLabel? label = some written) : Allowed written := by
  unfold writeLabel? at writes
  split at writes
  · cases writes
    exact allowed
  · split at writes
    · cases writes
    · cases writes
      exact Allowed.append (by decide) (Punycode.encode_allowed allowed)

theorem exists_of_mem_mapM {f : Text → Option Text} {list result : List Text} {u : Text}
    (maps : list.mapM f = some result) (member : u ∈ result) : ∃ t ∈ list, f t = some u := by
  induction list generalizing result with
  | nil =>
    cases maps
    cases member
  | cons t list ih =>
    simp only [List.mapM_cons, Option.bind_eq_bind, Option.bind_eq_some_iff] at maps
    obtain ⟨first, here, rest, later, same⟩ := maps
    cases same
    rcases List.mem_cons.mp member with rfl | behind
    · exact ⟨t, List.mem_cons_self, here⟩
    · obtain ⟨t', among, image⟩ := ih later behind
      exact ⟨t', List.mem_cons_of_mem _ among, image⟩

theorem toAscii?_allowed {bytes : List UInt8} {domain : Text}
    (reads : toAscii? bytes = some domain) : Allowed domain := by
  simp only [toAscii?, Option.bind_eq_bind, Option.bind_eq_some_iff] at reads
  obtain ⟨name, -, mapped, -, labels, -, written⟩ := reads
  split at written
  · next valid =>
    obtain ⟨texts, writes, rfl⟩ := Option.map_eq_some_iff.mp written
    have each := List.all_eq_true.mp (Bool.and_eq_true_iff.mp valid).1
    intro c member
    rcases Text.mem_join member with dot | ⟨text, among, inside⟩
    · rw [List.mem_singleton.mp dot]
      decide
    · obtain ⟨label, isLabel, writes⟩ := exists_of_mem_mapM writes among
      have allowed : Allowed label := by
        have valid := each label isLabel
        simp only [isValidLabel, Bool.and_eq_true, Bool.not_eq_true', List.any_eq_false] at valid
        intro d member
        simpa using valid.1.1 d member
      exact writeLabel?_allowed allowed writes c inside
  · cases written

end Idna

/-! ### Hosts -/

namespace Url.Host

variable {host other : Host} {t u : Text}

/-- A host of an address whose scheme is special. -/
def IsDomain (host : Host) : Prop := ∃ t, ofDomain t = .ok host

/-- A host that is written without brackets: an IPv4 address, or a name that is not read as one. -/
inductive Bare : Host → Prop
  | ipv4 (address : Nat) : Bare (.ipv4 address)
  | name {name : Text} : name ≠ [] → Idna.Allowed name → Ipv4.endsInNumber name = false →
      Bare (.name name)

theorem ofBracketed_ok (read : ofBracketed t = .ok host) :
    ∃ pieces, host = .ipv6 pieces ∧ pieces.length = 8 := by
  unfold ofBracketed at read
  split at read
  · split at read
    · next pieces found =>
      cases read
      exact ⟨pieces, rfl, Ipv6.length_pieces? found⟩
    · cases read
  · cases read

theorem isDomain_cases (isDomain : IsDomain host) :
    (∃ pieces, host = .ipv6 pieces ∧ pieces.length = 8) ∨ Bare host := by
  obtain ⟨t, read⟩ := isDomain
  unfold ofDomain at read
  split at read
  · exact .inl (ofBracketed_ok read)
  · right
    split at read
    · cases read
    · cases read
    · next domain nonempty found =>
      split at read
      · split at read
        · next address _ =>
          cases read
          exact .ipv4 address
        · cases read
      · next named =>
        cases read
        refine .name ?_ (Idna.toAscii?_allowed found) (by simpa using named)
        rintro rfl
        exact nonempty rfl

theorem isEmpty_of_isDomain (isDomain : IsDomain host) : host.isEmpty = false := by
  rcases isDomain_cases isDomain with ⟨pieces, rfl, -⟩ | bare
  · rfl
  · cases bare with
    | ipv4 address => rfl
    | name nonempty _ _ => simpa [isEmpty] using nonempty

theorem mem_render_bare {c : Char} (bare : Bare host) (member : c ∈ host.render) :
    c ≠ ':' ∧ c ≠ '[' := by
  cases bare with
  | ipv4 address =>
    rcases Ipv4.mem_render member with digit | rfl
    · refine ⟨?_, ?_⟩ <;> rintro rfl <;> cases digit
    · decide
  | name _ allowed _ =>
    refine ⟨?_, ?_⟩ <;> rintro rfl <;> exact absurd (allowed _ member) (by decide)

theorem eq_of_render_bare (bare : Bare host) (bare' : Bare other)
    (same : host.render = other.render) : host = other := by
  cases bare with
  | ipv4 address =>
    cases bare' with
    | ipv4 address' => rw [Ipv4.render_injective same]
    | name _ _ named => exact absurd same (Ipv4.render_ne_of_named named address)
  | name _ _ named =>
    cases bare' with
    | ipv4 address => exact absurd same.symm (Ipv4.render_ne_of_named named address)
    | name _ _ _ => exact congrArg Host.name same

/-- What may follow a host: nothing, or the colon in front of a port. -/
def FollowsHost (t : Text) : Prop := ∀ c, t.head? = some c → c = ':'

theorem render_bare_append (bare : Bare host) (follows : FollowsHost t) :
    (host.render ++ t).takeWhile (· != ':') = host.render ∧
      (host.render ++ t).dropWhile (· != ':') = t := by
  have inside : ∀ c ∈ host.render, (c != ':') = true := fun c member => by
    simpa using (mem_render_bare bare member).1
  have stops : ∀ c, t.head? = some c → (c != ':') = false := fun c first => by
    simpa using follows c first
  exact ⟨Text.takeWhile_append_of_head inside stops, Text.dropWhile_append_of_head inside stops⟩

theorem head?_render_bare (bare : Bare host) (follows : FollowsHost t) :
    (host.render ++ t).head? ≠ some '[' := by
  intro bracket
  cases text : host.render with
  | nil =>
    rw [text] at bracket
    exact absurd (follows '[' bracket) (by decide)
  | cons c rest =>
    rw [text] at bracket
    cases bracket
    exact (mem_render_bare bare (text ▸ List.mem_cons_self)).2 rfl

theorem eq_of_render_brackets {pieces pieces' : List Nat} (size : pieces.length = pieces'.length)
    (same : (Host.ipv6 pieces).render ++ t = (Host.ipv6 pieces').render ++ u) :
    pieces = pieces' ∧ t = u := by
  have noBracket : ∀ pieces, ']' ∉ Ipv6.render pieces := by
    intro pieces member
    rcases Ipv6.mem_render member with digit | colon
    · exact absurd digit (by decide)
    · cases colon
  have parts : Ipv6.render pieces ++ ']' :: t = Ipv6.render pieces' ++ ']' :: u := by
    simpa [Host.render] using same
  have cut := congrArg (Text.cutFirst? ']') parts
  rw [Text.cutFirst?_append (noBracket _), Text.cutFirst?_append (noBracket _)] at cut
  obtain ⟨text, behind⟩ := Prod.mk.inj (Option.some.inj cut)
  exact ⟨Ipv6.render_injective size text, behind⟩

/-- A host and what follows it are known from the text of both. -/
theorem eq_of_render_append (isDomain : IsDomain host) (isDomain' : IsDomain other)
    (follows : FollowsHost t) (follows' : FollowsHost u)
    (same : host.render ++ t = other.render ++ u) : host = other ∧ t = u := by
  rcases isDomain_cases isDomain with ⟨pieces, rfl, size⟩ | bare
  · rcases isDomain_cases isDomain' with ⟨pieces', rfl, size'⟩ | bare'
    · obtain ⟨rfl, behind⟩ := eq_of_render_brackets (size.trans size'.symm) same
      exact ⟨rfl, behind⟩
    · exact absurd (same ▸ rfl) (head?_render_bare bare' follows')
  · rcases isDomain_cases isDomain' with ⟨pieces', rfl, size'⟩ | bare'
    · exact absurd (same ▸ rfl) (head?_render_bare bare follows)
    · obtain ⟨front, back⟩ := render_bare_append bare follows
      obtain ⟨front', back'⟩ := render_bare_append bare' follows'
      rw [same] at front back
      exact ⟨eq_of_render_bare bare bare' (front.symm.trans front'), back.symm.trans back'⟩

end Url.Host

end FilterPrep
