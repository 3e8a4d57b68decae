import FilterPrep.Download
import FilterPrep.Proofs.Origin
import FilterPrep.Proofs.Resolver

/-!
# Confinement of remote lists

A remote list should only ask for documents on its own origin. What a run asks for is followed step
by step: one include, one document, one level of nesting, a whole download. Up to the first request
for an address that does not keep its origin every request stays there; and a list at such an
address can leave it (`Download.download_confined`).
-/

namespace FilterPrep

def Request.IsOn (o : Text) (request : Request) : Prop :=
  ∃ address, request = .remote address ∧ Location.originOf address = .ok o

/-- Each request stays on the origin `o` when the addresses asked for before it keep theirs. -/
def Confined (o : Text) (requests : List Request) : Prop :=
  ∀ before request behind, requests = before ++ request :: behind →
    (∀ address, .remote address ∈ before → Location.KeepsOrigin address) → request.IsOn o

variable {o : Text}

theorem confined_nil : Confined o [] := by
  intro before request behind split
  simp at split

theorem confined_append {first second : List Request} (left : Confined o first)
    (right : Confined o second) : Confined o (first ++ second) := by
  intro before request behind split kept
  rcases List.append_eq_append_iff.mp split with ⟨more, rfl, tail⟩ | ⟨more, rfl, tail⟩
  · exact right more request behind tail fun address member =>
      kept address (List.mem_append_right _ member)
  · cases more with
    | nil => exact right [] request behind tail.symm nofun
    | cons head more =>
      obtain ⟨rfl, -⟩ := List.cons.inj tail
      exact left before request more rfl kept

/-- Behind an address that does not keep its origin anything may follow. -/
theorem confined_cons {address : Text} {rest : List Request}
    (origin : Location.originOf address = .ok o)
    (kept : Location.KeepsOrigin address → Confined o rest) :
    Confined o (.remote address :: rest) := by
  intro before request behind split keeps
  cases before with
  | nil =>
    obtain ⟨rfl, -⟩ := List.cons.inj split
    exact ⟨address, rfl, origin⟩
  | cons head before =>
    obtain ⟨rfl, tail⟩ := List.cons.inj split
    exact kept (keeps address List.mem_cons_self) before request behind tail fun other member =>
      keeps other (List.mem_cons_of_mem _ member)

theorem confined_bind {α β : Type} {first : Traced α} {next : α → Traced β}
    (left : Confined o first.requests) (right : ∀ a, Confined o (next a).requests) :
    Confined o (first >>= next).requests := by
  obtain ⟨error | a, requests⟩ := first
  · exact left
  · exact confined_append left (right a)

theorem confined_get_bind {β : Type} {fetcher : Fetcher} {address : Text} {next : Text → Traced β}
    (origin : Location.originOf address = .ok o)
    (kept : Location.KeepsOrigin address → ∀ raw, Confined o (next raw).requests) :
    Confined o (fetcher.get (.remote address) >>= next).requests := by
  unfold Fetcher.get
  cases fetcher (.remote address) with
  | error error => exact confined_cons origin fun _ => confined_nil
  | ok raw => exact confined_cons origin fun keeps => kept keeps raw

namespace Include

variable {fetcher : Fetcher} {flags : Option FlagSet} {chain : List Text} {origin : Option Text}

/-- Every target that a document with this origin may include is on the origin `o`. -/
def StaysOn (o : Text) (origin : Option Text) : Prop :=
  ∀ target, Location.checkTarget target origin = .ok () →
    ∃ place, Location.resolve target origin = .remote place ∧ Location.originOf place = .ok o

theorem splice_confined {expand : Lines → Line → Text → Traced Lines}
    (each : ∀ passed line target, Confined o (expand passed line target).requests)
    (passed lines : Lines) : Confined o (splice expand passed lines).requests := by
  induction lines generalizing passed with
  | nil => exact confined_nil
  | cons line rest ih =>
    rw [splice]
    split
    · exact confined_bind (ih _) fun _ => confined_nil
    · exact confined_bind (each _ _ _) fun _ => confined_bind (ih _) fun _ => confined_nil

/-- One step: a document on the origin is asked for, and its includes stay there as well if its
address keeps the origin. -/
theorem openDocument_confined {nested : Option Resolver} {target place : Text}
    (onOrigin : Location.originOf place = .ok o)
    (deeper : ∀ resolve ∈ nested, ∀ chain origin lines, StaysOn o origin →
      Confined o (resolve chain origin lines).requests) :
    Confined o
      (openDocument fetcher flags nested chain origin target (.remote place)).requests := by
  unfold openDocument
  split
  · exact confined_nil
  · split
    · exact confined_nil
    · next resolve =>
      refine confined_get_bind onOrigin fun keeps raw => ?_
      refine confined_bind confined_nil fun lines => confined_bind ?_ fun _ => confined_nil
      exact deeper resolve rfl _ _ lines fun _ accepted =>
        Location.resolve_of_keepsOrigin onOrigin keeps accepted

theorem resolveWith_confined {outermost : Bool} {nested : Option Resolver}
    (stays : StaysOn o origin)
    (deeper : ∀ resolve ∈ nested, ∀ chain origin lines, StaysOn o origin →
      Confined o (resolve chain origin lines).requests) (lines : Lines) :
    Confined o (resolveWith fetcher flags outermost nested chain origin lines).requests := by
  rw [resolveWith_eq]
  refine splice_confined (fun passed line target => ?_) [] lines
  unfold includeOne
  cases accepted : Location.checkTarget target origin with
  | error error => exact confined_nil
  | ok _ =>
    obtain ⟨place, located, onOrigin⟩ := stays target accepted
    rw [located]
    exact openDocument_confined onOrigin deeper

theorem resolveWithin_confined (outermost : Bool) (room : Nat) (chain : List Text)
    (origin : Option Text) (lines : Lines) (stays : StaysOn o origin) :
    Confined o (resolveWithin fetcher flags outermost room chain origin lines).requests := by
  induction room generalizing outermost chain origin lines with
  | zero =>
    refine resolveWith_confined stays (fun resolve absent => ?_) lines
    exact absurd absent (Option.not_mem_none _)
  | succ room ih =>
    refine resolveWith_confined stays (fun resolve same => ?_) lines
    obtain rfl := Option.some.inj same
    exact ih false

end Include

namespace Download

theorem requests_confined {address : Text} (remote : Location.isRemote address = true)
    (origin : Location.originOf address = .ok o) (fetcher : Fetcher) (flags : Option FlagSet)
    (options : Options) : Confined o (download fetcher flags options address).requests := by
  have located : Location.resolve address none = .remote address := by
    simp [Location.resolve, remote, Location.remoteAddress]
  unfold download fetchText
  rw [located, bind_assoc]
  refine confined_get_bind origin fun keeps raw => ?_
  refine confined_bind ?_ fun raw => confined_bind ?_ fun lines => ?_
  · split
    · exact confined_bind confined_nil fun _ => confined_nil
    · exact confined_nil
  · unfold resolveList
    rw [located]
    refine confined_bind confined_nil fun lines => ?_
    exact Include.resolveWithin_confined _ _ _ _ lines fun _ accepted =>
      Location.resolve_of_keepsOrigin origin keeps accepted
  · split <;> exact confined_nil

theorem selection_of_include {flags : Option FlagSet} {line target : Text}
    (names : Directive.includeTarget? line = some target) :
    Selection.resolve flags [line] = .ok [line] := by
  have opened : Directive.ofLine line = .includeFile target := by
    unfold Directive.includeTarget? at names
    split at names
    · next opened => rw [opened, Option.some.inj names]
    · cases names
  cases flags with
  | none => rfl
  | some flags =>
    rw [Selection.resolve, Selection.select, opened]
    simp [Selection.select, Except.map]

/-- The first include of a list is asked for, unless it is the list itself. -/
theorem mem_requests_of_include {fetcher : Fetcher} {flags : Option FlagSet} {options : Options}
    {address line target : Text} {origin : Option Text} {location : Location}
    (remote : Location.isRemote address = true) (unchecked : options.validateChecksum = false)
    (fetched : fetcher (.remote address) = .ok line) (single : Lines.ofText line = [line])
    (names : Directive.includeTarget? line = some target)
    (child : (Location.remote address).childOrigin? = origin)
    (accepted : Location.checkTarget target origin = .ok ())
    (located : Location.resolve target origin = location)
    (fresh : location.key ≠ (Location.remote address).key) :
    location.request target origin ∈ (download fetcher flags options address).requests := by
  have itself : Location.resolve address none = .remote address := by
    simp [Location.resolve, remote, Location.remoteAddress]
  have text : (fetchText fetcher options address).result = .ok line := by
    unfold fetchText
    rw [itself]
    simp [Fetcher.get_result_eq_ok, Location.request, fetched, unchecked]
  have selected : Selection.resolve flags [line] = .ok [line] := selection_of_include names
  have step : Include.resolveAt fetcher flags 0 = Include.resolveWith fetcher flags true
      (some (Include.resolveWithin fetcher flags false 31)) := rfl
  unfold download
  refine Traced.mem_bind_requests.mpr (.inr ⟨line, text, Traced.mem_bind_requests.mpr (.inl ?_)⟩)
  unfold resolveList
  rw [itself, single]
  refine Traced.mem_bind_requests.mpr (.inr ⟨[line], selected, ?_⟩)
  rw [step, Include.resolveWith_eq, Include.splice, names]
  refine Traced.mem_bind_requests.mpr (.inl ?_)
  simp only [Include.includeOne, child, accepted, located, Traced.mapError_requests]
  unfold Include.openDocument
  rw [if_neg (by simpa using fresh)]
  exact Traced.mem_bind_requests.mpr (.inl (List.mem_singleton.mpr rfl))

def including (target : Text) : Text := "!#include ".toList ++ target

theorem lines_including : ∀ target ∈ Location.escapes,
    Lines.ofText (including target) = [including target] ∧
      Directive.includeTarget? (including target) = some target := by
  decide

theorem not_isOn_of_leaves {address target : Text} (leaves : Location.Leaves o address target) :
    ¬((Location.resolve target (Location.remote address).childOrigin?).request target
      (Location.remote address).childOrigin?).IsOn o := by
  rintro ⟨place, same, onOrigin⟩
  cases located : Location.resolve target (Location.remote address).childOrigin? with
  | remote found =>
    rw [located] at same
    cases same
    exact leaves.2 ⟨place, located, onOrigin⟩
  | onDisk path =>
    rw [located] at same
    cases same

/-- A remote list asks only for documents on its origin, up to the first request for an address
that does not keep it; and a list whose own address does not keep it can ask for others. -/
theorem download_confined {address : Text} (remote : Location.isRemote address = true)
    (origin : Location.originOf address = .ok o) :
    (∀ fetcher flags options, Confined o (download fetcher flags options address).requests) ∧
      (¬Location.KeepsOrigin address → ∀ flags options, options.validateChecksum = false →
        ∃ fetcher, ∃ request ∈ (download fetcher flags options address).requests,
          ¬request.IsOn o) := by
  refine ⟨requests_confined remote origin, fun broken flags options unchecked => ?_⟩
  obtain ⟨target, escape, leaves, fresh⟩ := Location.exists_leaves remote origin broken
  obtain ⟨single, names⟩ := lines_including target escape
  exact ⟨fun _ => .ok (including target), _,
    mem_requests_of_include remote unchecked rfl single names rfl leaves.1 rfl fresh,
    not_isOn_of_leaves leaves⟩

theorem download_confined_ipv6 :
    Location.isRemote "http://[::1]/".toList = true ∧
      Location.originOf "http://[::1]/".toList = .ok "http://[::1]".toList ∧
      Location.KeepsOrigin "http://[::1]/".toList ∧
      ∀ fetcher flags options, Confined "http://[::1]".toList
        (download fetcher flags options "http://[::1]/".toList).requests := by
  have remote : Location.isRemote "http://[::1]/".toList = true := by decide
  have origin : Location.originOf "http://[::1]/".toList = .ok "http://[::1]".toList := by cbv
  have directory : LocalPath.trimSlashes (Location.directory "http://[::1]/".toList) =
      "http://[::1]".toList := by decide
  refine ⟨remote, origin, ⟨?_, ?_⟩, (download_confined remote origin).1⟩
  · rw [directory]
    decide
  · rw [directory]
    rfl

/-- Without a path the directory of a list is no longer remote, and its includes are read from the
disk. -/
theorem download_reads_local_file :
    Location.isRemote "http://[::1]".toList = true ∧
      Location.originOf "http://[::1]".toList = .ok "http://[::1]".toList ∧
      Request.onDisk "/etc/passwd".toList (some "http:/".toList) ∈
        (download (fun _ => .ok (including "/etc/passwd".toList)) none ⟨false, false, false⟩
          "http://[::1]".toList).requests := by
  have remote : Location.isRemote "http://[::1]".toList = true := by decide
  have origin : Location.originOf "http://[::1]".toList = .ok "http://[::1]".toList := by cbv
  have key : Location.normalizeUrl "http://[::1]".toList = "http://[::1]/".toList := by cbv
  have names : Directive.includeTarget? (including "/etc/passwd".toList) =
      some "/etc/passwd".toList := by decide
  have child : (Location.remote "http://[::1]".toList).childOrigin? = some "http:/".toList := by
    decide
  have accepted : Location.checkTarget "/etc/passwd".toList (some "http:/".toList) = .ok () := rfl
  have located : Location.resolve "/etc/passwd".toList (some "http:/".toList) =
      .onDisk "/etc/passwd".toList := by decide
  have fresh : (Location.onDisk "/etc/passwd".toList).key ≠
      (Location.remote "http://[::1]".toList).key := by
    rw [Location.key, Location.key, key]
    decide
  exact ⟨remote, origin, mem_requests_of_include remote rfl rfl (by decide) names child accepted
    located fresh⟩

end Download

end FilterPrep
