import SchemaGraph.Editing.Load
import SchemaGraph.Snapshot.Writer

/-!
# Templates

A template is a schema to start from. It lists its tables and their columns; ids are their numbers,
and the relationships follow from the references. Loading a template lays it out.
-/

namespace SchemaGraph

structure Template where
  key : String
  title : String
  description : String
  color : String
  tables : List (Table Float)

namespace Template

/-- A column that has to have a value. -/
def column (name dataType : String) : Column := { id := "", name, dataType, isNullable := false }

def primary (c : Column) : Column := { c with isPrimaryKey := true }

def orNull (c : Column) : Column := { c with isNullable := true }

/-- A foreign key. -/
def referring (table name : String) (c : Column) : Column :=
  { c with isForeignKey := true, references := some ⟨table, name⟩ }

def idColumn (dataType : String) : Column := primary (column "id" dataType)

def table (name color : String) (columns : List Column) : Table Float :=
  { id := ""
    name
    columns := columns.zipIdx.map fun (c, i) => { c with id := s!"c{i + 1}" }
    position := Position.origin
    color := some color }

def numbered (tables : List (Table Float)) : List (Table Float) :=
  tables.zipIdx.map fun (t, i) => { t with id := s!"t{i + 1}" }

/-- The template with a key. -/
def find (all : List Template) (key : String) : Except Failure Template :=
  match all.find? (·.key == key) with
  | some t => .ok t
  | none => .error (.value (.unknownTemplate key (all.map (·.key))))

/-- A schema made from a template. -/
def load (layout : Except Failure (Layout.Settings Float)) (dialect : Json) (t : Template) :
    Edit (State Float) :=
  Editing.loadSchema layout
    { tables := .arr (t.tables.map Table.toJson)
      dialect
      shouldLayout := .bool true }

def summary (t : Template) : Json :=
  .obj [("key", .str t.key), ("title", .str t.title), ("description", .str t.description),
    ("color", .str t.color), ("table_count", .ofNat t.tables.length)]

end Template
end SchemaGraph

/-!
## The templates offered

Four schemas to start from, in the order of their keys.
-/

namespace SchemaGraph.Template

def blog : Template where
  key := "blog"
  title := "Modern Blog / CMS"
  description :=
    "Content management system. Users, Posts, Categories, Tags (Many-to-Many), " ++
      "Comments, and SEO fields."
  color := "pink"
  tables := numbered [
    table "users" "blue" [
      idColumn "INT",
      column "username" "VARCHAR",
      column "email" "VARCHAR",
      column "bio" "TEXT" |> orNull],
    table "posts" "pink" [
      idColumn "INT",
      column "author_id" "INT" |> referring "users" "id",
      column "title" "VARCHAR",
      column "slug" "VARCHAR",
      column "content" "LONGTEXT",
      column "published" "BOOLEAN",
      column "published_at" "DATETIME" |> orNull],
    table "categories" "purple" [
      idColumn "INT",
      column "name" "VARCHAR",
      column "slug" "VARCHAR"],
    table "post_categories" "purple" [
      column "post_id" "INT" |> primary |> referring "posts" "id",
      column "category_id" "INT" |> primary |> referring "categories" "id"],
    table "comments" "yellow" [
      idColumn "INT",
      column "post_id" "INT" |> referring "posts" "id",
      column "user_id" "INT" |> orNull |> referring "users" "id",
      column "body" "TEXT",
      column "created_at" "TIMESTAMP"],
    table "tags" "white" [
      idColumn "INT",
      column "name" "VARCHAR"]]

def shop : Template where
  key := "ecommerce"
  title := "E-Commerce Starter"
  description :=
    "Complete online store schema. Includes Users, Products, Categories, Orders, " ++
      "Order Items, Reviews, and Payments."
  color := "blue"
  tables := numbered [
    table "users" "blue" [
      idColumn "INT",
      column "email" "VARCHAR",
      column "password_hash" "VARCHAR",
      column "full_name" "VARCHAR" |> orNull,
      column "created_at" "TIMESTAMP"],
    table "products" "green" [
      idColumn "INT",
      column "category_id" "INT" |> referring "categories" "id",
      column "name" "VARCHAR",
      column "slug" "VARCHAR",
      column "price" "DECIMAL",
      column "stock_qty" "INT"],
    table "categories" "pink" [
      idColumn "INT",
      column "parent_id" "INT" |> orNull |> referring "categories" "id",
      column "name" "VARCHAR"],
    table "orders" "yellow" [
      idColumn "INT",
      column "user_id" "INT" |> referring "users" "id",
      column "status" "VARCHAR",
      column "total" "DECIMAL",
      column "created_at" "TIMESTAMP"],
    table "order_items" "yellow" [
      idColumn "INT",
      column "order_id" "INT" |> referring "orders" "id",
      column "product_id" "INT" |> referring "products" "id",
      column "quantity" "INT",
      column "unit_price" "DECIMAL"],
    table "reviews" "purple" [
      idColumn "INT",
      column "user_id" "INT" |> referring "users" "id",
      column "product_id" "INT" |> referring "products" "id",
      column "rating" "INT",
      column "comment" "TEXT" |> orNull],
    table "payments" "white" [
      idColumn "INT",
      column "order_id" "INT" |> referring "orders" "id",
      column "amount" "DECIMAL",
      column "provider" "VARCHAR",
      column "status" "VARCHAR"]]

def projectManagement : Template where
  key := "project_management"
  title := "Project Management"
  description :=
    "Trello/Jira style data model. Workspaces, Projects, Boards, Lists, Tasks, and " ++
      "Assignments."
  color := "green"
  tables := numbered [
    table "users" "blue" [
      idColumn "INT",
      column "name" "VARCHAR",
      column "email" "VARCHAR"],
    table "workspaces" "purple" [
      idColumn "INT",
      column "name" "VARCHAR",
      column "owner_id" "INT" |> referring "users" "id"],
    table "workspace_members" "purple" [
      column "workspace_id" "INT" |> primary |> referring "workspaces" "id",
      column "user_id" "INT" |> primary |> referring "users" "id",
      column "role" "VARCHAR"],
    table "projects" "green" [
      idColumn "INT",
      column "workspace_id" "INT" |> referring "workspaces" "id",
      column "name" "VARCHAR",
      column "description" "TEXT" |> orNull],
    table "boards" "white" [
      idColumn "INT",
      column "project_id" "INT" |> referring "projects" "id",
      column "name" "VARCHAR"],
    table "lists" "white" [
      idColumn "INT",
      column "board_id" "INT" |> referring "boards" "id",
      column "name" "VARCHAR",
      column "position" "FLOAT"],
    table "tasks" "yellow" [
      idColumn "INT",
      column "list_id" "INT" |> referring "lists" "id",
      column "title" "VARCHAR",
      column "assignee_id" "INT" |> orNull |> referring "users" "id",
      column "due_date" "DATETIME" |> orNull,
      column "priority" "VARCHAR"],
    table "comments" "white" [
      idColumn "INT",
      column "task_id" "INT" |> referring "tasks" "id",
      column "user_id" "INT" |> referring "users" "id",
      column "content" "TEXT"]]

def subscriptions : Template where
  key := "saas"
  title := "SaaS Subscription"
  description :=
    "Multi-tenant foundation. Organizations, Members with Roles, Subscription Plans, " ++
      "Invoices, and API Keys."
  color := "purple"
  tables := numbered [
    table "users" "blue" [
      idColumn "UUID",
      column "email" "VARCHAR",
      column "full_name" "VARCHAR" |> orNull],
    table "organizations" "purple" [
      idColumn "UUID",
      column "name" "VARCHAR",
      column "slug" "VARCHAR",
      column "owner_id" "UUID" |> referring "users" "id"],
    table "org_members" "purple" [
      idColumn "UUID",
      column "org_id" "UUID" |> referring "organizations" "id",
      column "user_id" "UUID" |> referring "users" "id",
      column "role" "VARCHAR"],
    table "plans" "green" [
      idColumn "VARCHAR",
      column "name" "VARCHAR",
      column "price" "INT",
      column "limits" "JSONB" |> orNull],
    table "subscriptions" "yellow" [
      idColumn "UUID",
      column "org_id" "UUID" |> referring "organizations" "id",
      column "plan_id" "VARCHAR" |> referring "plans" "id",
      column "status" "VARCHAR",
      column "current_period_end" "TIMESTAMP"],
    table "invoices" "white" [
      idColumn "VARCHAR",
      column "org_id" "UUID" |> referring "organizations" "id",
      column "amount" "INT",
      column "date" "DATE",
      column "pdf_url" "VARCHAR" |> orNull]]

def all : List Template := [blog, shop, projectManagement, subscriptions]

end SchemaGraph.Template
