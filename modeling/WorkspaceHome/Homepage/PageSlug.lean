import WorkspaceHome.Homepage.Basic
import WorkspaceHome.Log

/-!
# Slugs of default pages

The first default reference of each edition gets the slug of the page that it names. The page has to
be one of the listed row, its id has to be written like the one of the reference, and it has to
exist in the edition. Otherwise the slug stays empty, and the reason is noted.
-/

namespace WorkspaceHome

/-- The page that a reference names among the pages of a row. -/
def PageRef.pageAmong? (ref : PageRef) (pages : List Page) : Option Page :=
  pages.find? fun p => toString p.id == ref.id.display

/-- The slug that a default reference of a row gets, or the reason why it gets none. -/
def PageRef.resolve (row : Nat) (pages : List Page) (edition : Edition) (ref : PageRef) :
    Except Event String :=
  if pages.isEmpty then .error (.noPagesForApplication row)
  else match ref.pageAmong? pages with
    | none => .error (.defaultPageNotFound row ref.id)
    | some page =>
      match edition.slug page with
      | none => .error (.pageVersionMissing row ref.id edition.field)
      | some slug => .ok slug

/-- Puts the slug into the first default reference of a list. -/
def PageRef.resolveFirst (row : Nat) (pages : List Page) (edition : Edition) :
    List PageRef → List PageRef × List Event
  | [] => ([], [])
  | ref :: rest =>
    if ref.isDefault then
      match ref.resolve row pages edition with
      | .ok slug => ({ ref with slug } :: rest, [])
      | .error event => (ref :: rest, [event])
    else
      let (rest, events) := resolveFirst row pages edition rest
      (ref :: rest, events)

/-- An application with the slugs of its default pages, which are looked up among the pages of the
row, and what there is to note. -/
def ListedApplication.withSlugsAmong (pagesOfRow : List Page) (a : ListedApplication) :
    ListedApplication × List Event :=
  let (pages, noted) := PageRef.resolveFirst a.row pagesOfRow .unpublished a.pages
  let (publishedPages, alsoNoted) :=
    PageRef.resolveFirst a.row pagesOfRow .published a.publishedPages
  ({ a with pages, publishedPages }, noted ++ alsoNoted)

end WorkspaceHome
