import FilterPrep.Checksum
import FilterPrep.Include

/-!
# Downloads

`download` fetches a list and resolves it. `update` does the same for a list whose raw text was
saved before: when a patch can be applied to the saved text nothing has to be fetched anew.
-/

namespace FilterPrep

namespace Download

structure Options where
  validateChecksum : Bool
  /-- A list without a checksum is rejected as well. -/
  strictChecksum : Bool
  allowEmpty : Bool
  deriving DecidableEq, Repr

/-- Fetches the text of a list and validates its checksum. -/
def fetchText (fetcher : Fetcher) (options : Options) (address : Text) : Traced Text := do
  let raw ← fetcher.get ((Location.resolve address none).request address none)
  if options.validateChecksum then
    Traced.ofExcept (Checksum.validate raw options.strictChecksum)
  return raw

/-- Resolves the lines of the list at `address`, which is the first open document. -/
def resolveList (fetcher : Fetcher) (flags : Option FlagSet) (address : Text) (lines : Lines) :
    Traced Lines := do
  let location := Location.resolve address none
  let lines ← .ofExcept (Selection.resolve flags lines)
  Include.resolveAt fetcher flags 0 [location.key] location.childOrigin? lines

/-- Downloads a list and resolves all its directives. -/
def download (fetcher : Fetcher) (flags : Option FlagSet) (options : Options) (address : Text) :
    Traced Lines := do
  let raw ← fetchText fetcher options address
  let lines ← resolveList fetcher flags address (Lines.ofText raw)
  if !options.allowEmpty && lines.isBlank then .fail .emptyResponse else return lines

/-! ### Updates -/

structure PatchRequest where
  address : Text
  base : Text
  verbose : Bool
  deriving DecidableEq, Repr

/-- Brings a saved text up to date; `none` when the list has no patches. -/
abbrev Patcher := PatchRequest → Except PatchError (Option Text)

def noPatches : Patcher := fun _ => .ok none

structure Updated where
  lines : Lines
  /-- The text to be saved for the next update. -/
  raw : Text
  patchFailed : Bool
  deriving DecidableEq, Repr

/-- An update: the patch it asks for, if any, and the fetching that follows. -/
structure Update where
  asked : Option PatchRequest
  run : Traced Updated

/-- Downloads the whole list, with the text to be saved. -/
def fresh (fetcher : Fetcher) (flags : Option FlagSet) (options : Options) (address : Text) :
    Traced Updated := do
  let raw ← fetchText fetcher options address
  let lines := Lines.ofText raw
  if !options.allowEmpty && lines.isBlank then .fail .emptyResponse
  else
    let resolved ← resolveList fetcher flags address lines
    return ⟨resolved, raw, false⟩

/-- Goes on after the answer to a patch request for `base`. -/
def afterPatch (fetcher : Fetcher) (flags : Option FlagSet) (options : Options)
    (address base : Text) : Except PatchError (Option Text) → Traced Updated
  | .error (.unacceptableResponse _) => return ⟨Lines.ofText base, base, true⟩
  | .error error => .fail (.patch error)
  | .ok none => fresh fetcher flags options address
  | .ok (some patched) =>
    if patched = base then return ⟨Lines.ofText base, patched, false⟩
    else do
      let resolved ← resolveList fetcher flags address (Lines.ofText patched)
      return ⟨resolved, patched, false⟩

/-- Updates a list, by a patch to the `saved` text if there is one and `force` is off. -/
def update (fetcher : Fetcher) (patcher : Patcher) (flags : Option FlagSet) (options : Options)
    (force verbose : Bool) (saved : Option Text) (address : Text) : Update :=
  match saved with
  | some (c :: rest) =>
    if force then ⟨none, fresh fetcher flags options address⟩
    else
      let request : PatchRequest := ⟨address, c :: rest, verbose⟩
      ⟨some request, afterPatch fetcher flags options address (c :: rest) (patcher request)⟩
  | _ => ⟨none, fresh fetcher flags options address⟩

end Download

end FilterPrep
