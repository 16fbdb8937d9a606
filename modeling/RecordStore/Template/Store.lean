import RecordStore.Template.Parser

/-!
# The built-in template

The text of a typed store for one struct: a table in a container with operations to create, read and
delete its values, keyed by the primary key. The template imports the type if it needs to.
-/

namespace RecordStore

/-- The lines of the built-in template. -/
def storeLines : List String :=
  [
    "// Code generated by sdata-gen for `{{ type }}` (module `{{ package }}`). DO NOT EDIT.",
    "// Regenerate with: sdata-gen <source> {{ name }} --package {{ package }}",
    "// Conventional file name: {{ snake_name }}_store.rs",
    "",
    "use sdata::StoreResult;",
    "use sdata::codec;",
    "use sdata::container::Container;",
    "use sdata::query::\x7bFilter, Query, Selection\x7d;",
    "{{- if type_import }}",
    "use {{ type_import }};",
    "{{- end }}",
    "",
    "/// Typed CRUD access to `{{ type }}` values, keyed by `{{ primary_key }}`.",
    "pub struct {{ name }}Store<C: Container> \x7b",
    "    container: C,",
    "\x7d",
    "",
    "impl<C: Container> {{ name }}Store<C> \x7b",
    "    /// Table holding the values in the container.",
    "    pub const TABLE: &'static str = \"{{ table }}\";",
    "",
    "    pub fn new(container: C) -> Self \x7b",
    "        Self \x7b container \x7d",
    "    \x7d",
    "",
    "    pub fn table(&self) -> &'static str \x7b",
    "        Self::TABLE",
    "    \x7d",
    "",
    "    pub fn container(&self) -> &C \x7b",
    "        &self.container",
    "    \x7d",
    "",
    "    /// Create the table if it does not exist yet.",
    "    pub fn init(&self) -> StoreResult<()> \x7b",
    "        self.container.init(Self::TABLE)",
    "    \x7d",
    "",
    "    /// Store `value` under its `{{ primary_key }}`.",
    "    ///",
    "    /// Fails with `StoreError::DuplicateKey` when the key is already",
    "    /// present; the stored value is left untouched.",
    "    pub fn insert(&self, value: &{{ type }}) -> StoreResult<()> \x7b",
    "        let payload = codec::encode(value)?;",
    "        self.container",
    "            .insert(Self::TABLE, &value.{{ primary_key }}, payload)",
    "    \x7d",
    "",
    "    /// Same as [`Self::insert`].",
    "    pub fn create(&self, value: &{{ type }}) -> StoreResult<()> \x7b",
    "        self.insert(value)",
    "    \x7d",
    "",
    "    /// Run a prepared query against the table.",
    "    pub fn execute(&self, query: &Query<'_, {{ type }}>) " ++
      "-> StoreResult<Selection<{{ type }}>> \x7b",
    "        sdata::query::execute(&self.container, query)",
    "    \x7d",
    "",
    "    /// Every stored value, in key order.",
    "    pub fn select_all(&self) -> StoreResult<Vec<{{ type }}>> \x7b",
    "        self.execute(&Query::all(Self::TABLE))",
    "            .map(Selection::into_vec)",
    "    \x7d",
    "",
    "    /// Every stored value accepted by `filter`, in key order.",
    "    pub fn select_where<F>(&self, filter: F) -> StoreResult<Vec<{{ type }}>>",
    "    where",
    "        F: Fn(&{{ type }}) -> bool,",
    "    \x7b",
    "        self.execute(&Query::filtered(Self::TABLE, filter))",
    "            .map(Selection::into_vec)",
    "    \x7d",
    "",
    "    /// The first stored value accepted by `filter`, or `None`.",
    "    pub fn first_or_none<F>(&self, filter: F) -> StoreResult<Option<{{ type }}>>",
    "    where",
    "        F: Fn(&{{ type }}) -> bool,",
    "    \x7b",
    "        let filter: Filter<'_, {{ type }}> = Box::new(filter);",
    "        self.execute(&Query::first(Self::TABLE, Some(filter)))",
    "            .map(Selection::into_first)",
    "    \x7d",
    "",
    "    /// Select by query string. No container supports this yet, so it",
    "    /// fails with `StoreError::UnsupportedQuery`.",
    "    pub fn select(&self, query: &str) -> StoreResult<Vec<{{ type }}>> \x7b",
    "        let entries = self.container.select_query(Self::TABLE, query)?;",
    "        codec::decode_table(Self::TABLE, &entries)",
    "    \x7d",
    "",
    "    /// Remove the value stored under `key`, returning whether it existed.",
    "    pub fn delete(&self, key: &str) -> StoreResult<bool> \x7b",
    "        self.container.delete(Self::TABLE, key)",
    "    \x7d",
    "\x7d"
  ]

/-- **The text of the built-in template.** -/
def storeText : String := String.ofList (storeLines.flatMap fun line => line.toList ++ ['\n'])

/-- **The built-in template.** -/
def Template.store : Template := (Template.parse storeText).toOption.getD []

end RecordStore
