import Concordance.Index.Basic
import Concordance.Text.Terms

/-!
# Indexing documents

A document is a text at a location. Its terms are indexed at consecutive positions from one on.

## Main definitions

* `Index.addText`: adds the terms of a text
* `Index.ofText`: the index of one document
* `Index.ofDocuments`: the index of several documents
-/

namespace Concordance.Index

/-- Adds the terms of a text at consecutive positions. -/
def addText (index : Index) (location : String) (start : Nat) (text : String) : Index :=
  index.addTerms location start (Text.terms text)

/-- The index of one document. -/
def ofText (location text : String) : Index :=
  (empty).addText location 1 text

/-- The index of documents, each a location and a text. -/
def ofDocuments (documents : List (String × String)) : Index :=
  documents.foldl (fun index document => index.addText document.1 1 document.2) empty

end Concordance.Index
