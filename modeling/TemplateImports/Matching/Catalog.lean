/-!
# Catalogs

The components and directives that the usual component library provides.

Main results:

- Definitions `components` and `directives` list them.
-/

namespace TemplateImports.Catalog

/-- The components of the library. -/
def components : List String :=
  ["VApp", "VAppBar", "VAppBarNavIcon", "VAppBarTitle", "VAlert", "VAutocomplete", "VAvatar",
   "VBadge", "VBanner", "VBottomNavigation", "VBottomSheet", "VBreadcrumbs", "VBreadcrumbsItem",
   "VBreadcrumbsDivider", "VBtn", "VBtnToggle", "VCalendar", "VCalendarCategory", "VCalendarDaily",
   "VCalendarWeekly", "VCalendarMonthly", "VCard", "VCardActions", "VCardSubtitle", "VCardText",
   "VCardTitle", "VCarousel", "VCarouselItem", "VCheckbox", "VSimpleCheckbox", "VChip",
   "VChipGroup", "VColorPicker", "VColorPickerSwatches", "VColorPickerCanvas", "VContent",
   "VCombobox", "VCounter", "VData", "VDataIterator", "VDataFooter", "VDataTable", "VEditDialog",
   "VTableOverflow", "VDataTableHeader", "VSimpleTable", "VVirtualTable", "VDatePicker",
   "VDatePickerTitle", "VDatePickerHeader", "VDatePickerDateTable", "VDatePickerMonthTable",
   "VDatePickerYears", "VDialog", "VDivider", "VExpansionPanels", "VExpansionPanel",
   "VExpansionPanelHeader", "VExpansionPanelContent", "VFileInput", "VFooter", "VForm",
   "VContainer", "VCol", "VRow", "VSpacer", "VLayout", "VFlex", "VHover", "VIcon", "VImg", "VInput",
   "VItem", "VItemGroup", "VLabel", "VLazy", "VList", "VListGroup", "VListItem", "VListItemAction",
   "VListItemActionText", "VListItemAvatar", "VListItemContent", "VListItemGroup", "VListItemIcon",
   "VListItemSubtitle", "VListItemTitle", "VMain", "VMenu", "VMessages", "VNavigationDrawer",
   "VOverflowBtn", "VOverlay", "VPagination", "VSheet", "VParallax", "VPicker", "VProgressCircular",
   "VProgressLinear", "VRadioGroup", "VRadio", "VRangeSlider", "VRating", "VResponsive", "VSelect",
   "VSkeletonLoader", "VSlider", "VSlideGroup", "VSlideItem", "VSnackbar", "VSparkline",
   "VSpeedDial", "VStepper", "VStepperContent", "VStepperStep", "VStepperHeader", "VStepperItems",
   "VSubheader", "VSwitch", "VSystemBar", "VTabs", "VTab", "VTabItem", "VTabsItems", "VTabsSlider",
   "VTextarea", "VTextField", "VThemeProvider", "VTimeline", "VTimelineItem", "VTimePicker",
   "VTimePickerClock", "VTimePickerTitle", "VToolbar", "VToolbarItems", "VToolbarTitle", "VTooltip",
   "VTreeview", "VTreeviewNode", "VVirtualScroll", "VWindow", "VWindowItem", "VCarouselTransition",
   "VCarouselReverseTransition", "VTabTransition", "VTabReverseTransition", "VMenuTransition",
   "VFabTransition", "VDialogTransition", "VDialogBottomTransition", "VFadeTransition",
   "VScaleTransition", "VScrollXTransition", "VScrollXReverseTransition", "VScrollYTransition",
   "VScrollYReverseTransition", "VSlideXTransition", "VSlideXReverseTransition",
   "VSlideYTransition", "VSlideYReverseTransition", "VExpandTransition", "VExpandXTransition"]

/-- The directives of the library. -/
def directives : List String :=
  ["ClickOutside", "Intersect", "Mutate", "Resize", "Ripple", "Scroll", "Touch"]

end TemplateImports.Catalog
