import ApiDocs.Failure
import ApiDocs.Model.Tree

/-!
Addresses of pages, relative to the directory of the site, and the links between them.
-/

namespace ApiDocs.Site

/-! ## Pages of declarations -/

def indexAddress : String := "index.html"

def assetsAddress : String := "assets"

/-- Modules and classes have pages of their own, named by their full names. -/
def addressOf? (kind : Kind) (fullName : String) : Option String :=
  match kind with
  | .moduleFile => some ("modules/" ++ fullName ++ ".html")
  | .classDefinition => some ("classes/" ++ fullName ++ ".html")
  | _ => none

/-- The address of the page of the first declaration of a chain, if it has one. -/
def chainAddress? (chain : List Declaration) : Option String :=
  match chain with
  | [] => none
  | declaration :: _ => addressOf? declaration.kind (Declaration.dottedName chain)

/-! ## Relative links -/

/-- What stands before the last slash of an address, without slashes at its end; slashes alone
are kept. -/
def directoryOf (address : String) : String :=
  let kept := (address.toList.reverse.dropWhile (· ≠ '/')).reverse
  let trimmed := Text.trimEndOf '/' kept
  String.ofList (if trimmed.isEmpty then kept else trimmed)

/-- The components of the place that a text leads to from a directory; going up from the root
leads to the root. -/
def absoluteComponents (directory : List String) (text : String) : List String :=
  (Path.components text).foldl Disk.step (if text.startsWith "/" then [] else directory)

/-- The length of the longest common start. -/
def commonLength : List String → List String → Nat
  | left :: lefts, right :: rights => if left = right then commonLength lefts rights + 1 else 0
  | _, _ => 0

/-- The path from one place to another: up to the directory that both share, then down. -/
def between (source target : List String) : String :=
  let shared := commonLength source target
  match List.replicate (source.length - shared) ".." ++ target.drop shared with
  | [] => "."
  | parts => "/".intercalate parts

/-- The link from a page to a target; both are meant from the working directory, which counts
only where one of them leads out of it. -/
def relativeAddress (directory : List String) (page target : String) : Except Failure String :=
  if target = "" then .error .noAddress
  else
    .ok (between (absoluteComponents directory (directoryOf page))
      (absoluteComponents directory target))

end ApiDocs.Site
